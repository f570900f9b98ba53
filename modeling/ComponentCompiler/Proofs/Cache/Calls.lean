import ComponentCompiler.Cache.Basic
import ComponentCompiler.Proofs.Cache.Store

/-!
# The calls of a cache

What each call of a cache does to the files and to its index. Only storing a module and emptying the
directory touch the files: the first writes the text of the module and then the document of the
index (`run_put_of_ok`, `run_stamp`), the second takes files away (`run_clean`). What is served was
read from the file of a key that is in the index (`of_get?_eq_some`).
-/

namespace ComponentCompiler

open Disk Machine

namespace Cache

variable {machine machine' : Machine} {cache : Cache} {root directory : Path}
  {files : Dependencies} {content compilerVersion : String}

theorem snd_take (machine : Machine) (root : Path) (files : Dependencies) :
    (machine.run (Fingerprint.take root files)).2 = machine := by
  obtain ⟨component, script, template⟩ := files
  cases script <;> cases template <;> rfl

theorem snd_isFresh (machine : Machine) (cache : Cache) (file : Path) :
    (machine.run (cache.isFresh file)).2 = machine := by
  unfold isFresh
  split
  · rfl
  · rw [run_bind, snd_take]
    rfl

/-- Only files in the index are fresh. -/
theorem mem_index_of_isFresh {file : Path} (h : (machine.run (cache.isFresh file)).1 = true) :
    (Keyed.get? (cache.keyOf file) cache.index.entries).isSome := by
  unfold isFresh at h
  split at h
  · cases h
  · rename_i hentry
    rw [hentry]
    rfl

theorem snd_read? (machine : Machine) (store : ModuleStore) (key : String) :
    (machine.run (store.read? key)).2 = machine := rfl

theorem quiet_get? (machine : Machine) (cache : Cache) (file : Path) :
    Quiet machine (machine.run (cache.get? file)).2 := by
  rw [get?, run_bind, snd_isFresh]
  split
  · rw [run_bind, snd_read?]
    dsimp only
    split
    · rw [run_bind, run_pure]
      dsimp only
      exact quiet_info machine _ _
    · rw [run_pure]
      exact .refl machine
  · rw [run_bind, run_pure]
    dsimp only
    exact quiet_info machine _ _

/-- What is served was stored for a key in the index, and is read from the file of the key. -/
theorem of_get?_eq_some {file : Path} {text : String}
    (h : (machine.run (cache.get? file)).1 = some text) :
    (Keyed.get? (cache.keyOf file) cache.index.entries).isSome ∧
      machine.disk.contentAt (spot machine.here cache.directory ++
        ModuleStore.names (cache.keyOf file)) = some (.text text) := by
  rw [get?, run_bind, snd_isFresh] at h
  split at h
  · rename_i hfresh
    refine ⟨mem_index_of_isFresh hfresh, ?_⟩
    rw [run_bind, snd_read?] at h
    have hread : (machine.run (cache.store.read? (cache.keyOf file))).1 = some text := by
      generalize (machine.run (cache.store.read? (cache.keyOf file))).1 = content at h ⊢
      dsimp only at h
      split at h
      · rwa [run_bind, run_pure] at h
      · rwa [run_pure] at h
    exact ModuleStore.contentAt_of_read? hread
  · cases h

/-- A cache with the fingerprint of a module in its index. -/
def stamped (cache : Cache) (machine : Machine) (files : Dependencies) : Cache :=
  let fingerprint := (machine.run (Fingerprint.take cache.root files)).1
  let entries := Keyed.insert (cache.keyOf files.component) fingerprint cache.index.entries
  { cache with index := { cache.index with entries } }

/-- Stamping a module puts its fingerprint into the index, whether or not that can be saved. -/
theorem run_stamp (machine : Machine) (cache : Cache) (files : Dependencies) :
    machine.run (cache.stamp files) =
      (((machine.run ((cache.stamped machine files).index.save cache.directory)).1,
        cache.stamped machine files),
        (machine.run ((cache.stamped machine files).index.save cache.directory)).2) := by
  rw [stamp, run_bind, snd_take]
  rfl

/-- Only the stamped module is new in the index. -/
theorem mem_index_stamped {key : String}
    (h : (Keyed.get? key (cache.stamped machine files).index.entries).isSome) :
    key = cache.keyOf files.component ∨ (Keyed.get? key cache.index.entries).isSome := by
  rw [stamped, Keyed.get?_insert] at h
  split at h
  · exact .inl ‹_›
  · exact .inr h

/-- What writing the text of a module gives. -/
def written (cache : Cache) (machine : Machine) (files : Dependencies) (content : String) :
    Except CacheError Path × Machine :=
  machine.run (cache.store.write (cache.keyOf files.component) content)

theorem attempts_written (machine : Machine) (cache : Cache) (files : Dependencies)
    (content : String) :
    Attempts machine (spot machine.here cache.directory ++
      ModuleStore.names (cache.keyOf files.component)) content
      (cache.written machine files content) :=
  ModuleStore.attempts_write machine cache.store (cache.keyOf files.component) content

theorem run_put_of_error {e : CacheError}
    (h : (cache.written machine files content).1 = .error e) :
    machine.run (cache.put files content) =
      ((.error e, cache), (cache.written machine files content).2) := by
  rw [written] at h ⊢
  rw [put, run_bind, h]
  rfl

/-- Once a module is written it is stamped. -/
theorem run_put_of_ok {path : Path}
    (h : (cache.written machine files content).1 = .ok path) :
    ∃ middle, Quiet (cache.written machine files content).2 middle ∧
      machine.run (cache.put files content) = middle.run (cache.stamp files) := by
  rw [written] at h ⊢
  rw [put, run_bind, h]
  generalize (machine.run (cache.store.write (cache.keyOf files.component) content)).2 = after
  dsimp only
  rw [run_bind]
  exact ⟨_, quiet_info after "wrote compiled file to cache"
    [fileField files.component, ("cached", path.text)], rfl⟩

theorem run_clean (machine : Machine) (cache : Cache) :
    (machine.run cache.clean).2 = (machine.run cache.store.clear).2 ∧
      (machine.run cache.clean).1.2 =
        if (machine.run cache.clean).1.1.isOk then
          { cache with index := CacheIndex.empty cache.compilerVersion }
        else cache := by
  rw [clean, run_bind]
  cases (machine.run cache.store.clear).1 with
  | error e => exact ⟨rfl, rfl⟩
  | ok removed => exact ⟨rfl, rfl⟩

/-- A directory has no index that could be read. -/
def Unindexed (machine : Machine) (directory : Path) : Prop :=
  ∀ document, machine.disk.contentAt (spot machine.here directory ++ CacheIndex.names) ≠
    some (.text document)

theorem Unindexed.quiet (h : Unindexed machine directory) (hquiet : Quiet machine machine') :
    Unindexed machine' directory := by
  intro document
  rw [hquiet.contents, hquiet.here]
  exact h document

/-- In a directory that has no index there is none to load. -/
theorem run_load_of_absent (h : Unindexed machine directory) :
    machine.run (CacheIndex.load directory) = (none, machine) := by
  cases hread : machine.disk.readText machine.here (directory.join CacheIndex.fileName) with
  | error e =>
      have hfiles : machine.run (Files.readText (directory.join CacheIndex.fileName)) =
          (.error e, machine) := congrArg (·, machine) hread
      rw [CacheIndex.load, run_bind, hfiles]
      rfl
  | ok document =>
      have hcontent := contentAt_of_readText hread
      rw [CacheIndex.spot_fileName] at hcontent
      exact absurd hcontent (h document)

theorem eq_of_map_const {ε α β : Type} {result : Except ε α} {a b : β}
    (h : (result.map fun _ => a) = .ok b) : b = a := by
  cases result with
  | error e => cases h
  | ok _ =>
      cases h
      rfl

theorem eq_empty_of_reset {index : CacheIndex}
    (h : (machine.run (reset directory compilerVersion)).1 = .ok index) :
    index = CacheIndex.empty compilerVersion := by
  rw [reset, run_bind, run_bind] at h
  split at h
  · cases h
  · rw [run_bind, run_pure] at h
    exact eq_of_map_const h

theorem eq_empty_of_openIndex {index : CacheIndex} (habsent : Unindexed machine directory)
    (h : (machine.run (openIndex directory compilerVersion)).1 = .ok index) :
    index = CacheIndex.empty compilerVersion := by
  have hpeek : (machine.run (Files.pathExists (directory.join CacheIndex.fileName))).2 =
      machine := rfl
  rw [openIndex, run_bind, run_bind, hpeek, run_load_of_absent habsent] at h
  dsimp only [Option.filter_none] at h
  split at h
  · exact eq_empty_of_reset h
  · cases h
    rfl

/-- A cache that is opened in a directory without an index has an empty one. -/
theorem entries_of_openAt (habsent : Unindexed machine directory)
    (h : (machine.run (openAt root directory compilerVersion)).1 = .ok cache) :
    cache.index.entries = [] := by
  have hquiet := quiet_info machine "initializing permanent cache" [("cache_dir", directory.text)]
  rw [openAt, run_bind, run_bind, run_pure] at h
  generalize (machine.run (Journal.info "initializing permanent cache"
    [("cache_dir", directory.text)])).2 = middle at h hquiet
  dsimp only at h
  cases hindex : (middle.run (openIndex directory compilerVersion)).1 with
  | error e =>
      rw [hindex] at h
      cases h
  | ok index =>
      rw [hindex] at h
      cases h
      rw [eq_empty_of_openIndex (habsent.quiet hquiet) hindex]
      rfl

end Cache
end ComponentCompiler
