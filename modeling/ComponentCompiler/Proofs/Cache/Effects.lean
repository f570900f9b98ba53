import ComponentCompiler.Cache.Basic
import ComponentCompiler.Proofs.Cache.Store
import ComponentCompiler.Proofs.Machine.Host

/-!
# What the calls of a cache do on any host

A fingerprint tells times and changes nothing (`run_take`, `run_isFresh`). Storing a module puts its
text at the names of its key; then its fingerprint is in the index, whether or not the index can be
saved (`run_put_of_ok`, `run_stamp`).
-/

namespace ComponentCompiler

open Disk

namespace Host

variable {σ : Type} [Files (StateM σ)] [Journal (StateM σ)] [FragileHost σ]
variable {s before after : σ} {cache : Cache} {files : Dependencies} {content key : String}

section Fingerprints

/-- When a file was last modified, as a program sees it. -/
def timeOf (s : σ) (path : Path) : Option Binary64 := (run s (modifiedAt path)).1

theorem run_modifiedAt (s : σ) (path : Path) :
    run s (modifiedAt path) = (timeOf s path, s) := by
  have hmodified := run_modified s path
  rw [timeOf, modifiedAt, run_bind, hmodified]
  rfl

theorem timeOf_eq (s : σ) (path : Path) : timeOf s path =
    (((disk s).find (here s) path).toOption).bind fun found => found.2.modified.milliseconds? := by
  rw [timeOf, modifiedAt, run_bind, run_modified, run_pure]
  cases (disk s).find (here s) path <;> rfl

theorem Same.timeOf_eq (h : Same before after) (path : Path) :
    timeOf after path = timeOf before path := by
  rw [Host.timeOf_eq, Host.timeOf_eq, h.disk, h.here]

/-- The stamp of an external file. -/
def stampOf (s : σ) (root : Path) (file : Option Path) : Option ExternalStamp :=
  file.bind fun file => (timeOf s (root.join file)).map fun modified =>
    ⟨root.stored (root.join file), modified⟩

theorem run_takeStamp (s : σ) (root : Path) (file : Option Path) :
    run s (ExternalStamp.take root file) = (stampOf s root file, s) := by
  cases file with
  | none => rfl
  | some file =>
      rw [ExternalStamp.take, run_bind, run_modifiedAt]
      rfl

/-- The fingerprint of a module. -/
def fingerprintOf (s : σ) (root : Path) (files : Dependencies) : Fingerprint where
  modified := timeOf s (root.join files.component)
  externalScript := stampOf s root files.externalScript
  externalTemplate := stampOf s root files.externalTemplate

theorem run_take (s : σ) (root : Path) (files : Dependencies) :
    run s (Fingerprint.take root files) = (fingerprintOf s root files, s) := by
  rw [Fingerprint.take, run_bind, run_modifiedAt, run_bind, run_takeStamp, run_bind,
    run_takeStamp]
  rfl

theorem run_isFresh (s : σ) (cache : Cache) (file : Path) :
    run s (cache.isFresh file) =
      (match Keyed.get? (cache.keyOf file) cache.index.entries with
        | none => false
        | some fingerprint => (fingerprintOf s cache.root
            (fingerprint.dependencies cache.root file)).same fingerprint, s) := by
  unfold Cache.isFresh
  cases Keyed.get? (cache.keyOf file) cache.index.entries with
  | none => rfl
  | some fingerprint =>
      dsimp only
      rw [run_bind, run_take]
      rfl

theorem snd_isFresh (s : σ) (cache : Cache) (file : Path) :
    (run s (cache.isFresh file)).2 = s := by
  rw [run_isFresh]

/-- The status of a cache tells for each of its keys whether the file of that key is fresh. -/
theorem run_status (s : σ) (cache : Cache) : run s cache.status =
    (cache.index.entries.map fun entry =>
      ⟨entry.1, (run s (cache.isFresh (cache.root.join ⟨entry.1⟩))).1⟩, s) := by
  rw [Cache.status]
  induction cache.index.entries with
  | nil => rfl
  | cons entry entries ih =>
    have hentry : run s (do
        let fresh ← cache.isFresh (cache.root.join ⟨entry.1⟩)
        return (⟨entry.1, fresh⟩ : ModuleStatus)) =
        (⟨entry.1, (run s (cache.isFresh (cache.root.join ⟨entry.1⟩))).1⟩, s) := by
      rw [run_bind, run_pure, snd_isFresh]
    rw [List.mapM_cons, run_bind, hentry, run_bind, ih, run_pure]
    rfl

theorem run_read? (s : σ) (store : ModuleStore) (key : String) :
    run s (store.read? key) =
      (((disk s).readText (here s) (store.path key)).toOption, s) := by
  rw [ModuleStore.read?, run_bind, run_readText]
  rfl

theorem same_get? (s : σ) (cache : Cache) (file : Path) :
    Same s (run s (cache.get? file)).2 := by
  rw [Cache.get?, run_bind, snd_isFresh]
  split
  · rw [run_bind, run_read?]
    dsimp only
    split
    · rw [run_bind, run_pure]
      exact same_info s _ _
    · exact .refl s
  · rw [run_bind, run_pure]
    exact same_info s _ _

/-- What is served for a file is the text of its module, if that is fresh. -/
theorem run_get? (s : σ) (cache : Cache) (file : Path) :
    (run s (cache.get? file)).1 = if (run s (cache.isFresh file)).1 then
      ((disk s).readText (here s) (cache.store.path (cache.keyOf file))).toOption else none := by
  rw [Cache.get?, run_bind, snd_isFresh]
  split
  · rw [run_bind, run_read?]
    generalize ((disk s).readText (here s) (cache.store.path (cache.keyOf file))).toOption = text
    dsimp only
    split
    · rw [run_bind, run_pure]
    · rw [run_pure]
  · rw [run_bind, run_pure]

theorem of_get?_eq_some {file : Path} {text : String}
    (h : (run s (cache.get? file)).1 = some text) :
    (run s (cache.isFresh file)).1 = true ∧
      (disk s).readText (here s) (cache.store.path (cache.keyOf file)) = .ok text := by
  rw [run_get?] at h
  split at h
  · rename_i hfresh
    exact ⟨hfresh, ok_of_toOption h⟩
  · cases h

end Fingerprints

section Storing

theorem kept_makeParent (s : σ) (path : Path) :
    Kept s (run s (ModuleStore.makeParent path)).2 := by
  unfold ModuleStore.makeParent
  split
  · exact .refl s
  · exact kept_makeDirectories s _

omit [Journal (StateM σ)] [FragileHost σ] in
/-- A module is written once there are directories for it. -/
theorem write_cases (s : σ) (store : ModuleStore) (key content : String) :
    let made := (run s (ModuleStore.makeParent (store.path key))).2
    let text := run made (Files.writeText (store.path key) content)
    ((run s (store.write key content)).1.isOk = false ∧
        (run s (store.write key content)).2 = made) ∨
      (run s (store.write key content)).1.isOk = text.1.isOk ∧
        (run s (store.write key content)).2 = text.2 := by
  dsimp only
  rw [ModuleStore.write, run_bind]
  generalize (run s (ModuleStore.makeParent (store.path key))).2 = made
  split
  · rw [run_pure]
    exact .inl ⟨rfl, rfl⟩
  · rw [run_bind, run_pure, isOk_map, isOk_blame]
    exact .inr ⟨rfl, rfl⟩

/-- A module that is stored is at the names of its key. -/
theorem stores_write (s : σ) (store : ModuleStore) (key content : String) :
    Stores s (spot (here s) store.directory ++ ModuleStore.names key) content
      (run s (store.write key content)).1 (run s (store.write key content)).2 := by
  have hparent := kept_makeParent s (store.path key)
  rw [← ModuleStore.spot_path, ← hparent.here]
  rcases write_cases s store key content with ⟨herror, hafter⟩ | ⟨hresult, hafter⟩
  · rw [hafter]
    exact hparent.stores_of_error herror
  · rw [hafter]
    exact hparent.stores ((stores_writeText _ (store.path key) content).of_isOk hresult)

omit [Journal (StateM σ)] [FragileHost σ] in
/-- The document of an index is written once there is a directory for it. -/
theorem save_cases (s : σ) (index : CacheIndex) (directory : Path) :
    let made := (run s (Files.makeDirectories directory)).2
    let document := run made (Files.writeText (directory.join CacheIndex.fileName) index.document)
    ((run s (index.save directory)).1.isOk = false ∧ (run s (index.save directory)).2 = made) ∨
      (run s (index.save directory)).1.isOk = document.1.isOk ∧
        (run s (index.save directory)).2 = document.2 := by
  dsimp only
  rw [CacheIndex.save, run_bind]
  generalize (run s (Files.makeDirectories directory)).2 = made
  split
  · rw [run_pure]
    exact .inl ⟨rfl, rfl⟩
  · rw [run_bind, run_pure, isOk_blame]
    exact .inr ⟨rfl, rfl⟩

/-- An index that is saved is at its name. -/
theorem stores_save (s : σ) (index : CacheIndex) (directory : Path) :
    Stores s (spot (here s) directory ++ CacheIndex.names) index.document
      (run s (index.save directory)).1 (run s (index.save directory)).2 := by
  have hdirectory := kept_makeDirectories s directory
  rw [← CacheIndex.spot_fileName, ← hdirectory.here]
  rcases save_cases s index directory with ⟨herror, hafter⟩ | ⟨hresult, hafter⟩
  · rw [hafter]
    exact hdirectory.stores_of_error herror
  · rw [hafter]
    exact hdirectory.stores ((stores_writeText _ _ index.document).of_isOk hresult)

/-- What writing the text of a module gives. -/
def textWritten (s : σ) (cache : Cache) (files : Dependencies) (content : String) :
    Except CacheError Path × σ :=
  run s (cache.store.write (cache.keyOf files.component) content)

/-- A cache with the fingerprint of a module in its index. -/
def stamped (s : σ) (cache : Cache) (files : Dependencies) : Cache :=
  let entries := Keyed.insert (cache.keyOf files.component) (fingerprintOf s cache.root files)
    cache.index.entries
  { cache with index := { cache.index with entries } }

/-- Stamping a module puts its fingerprint into the index, whether or not that can be saved. -/
theorem run_stamp (s : σ) (cache : Cache) (files : Dependencies) :
    run s (cache.stamp files) =
      (((run s ((stamped s cache files).index.save cache.directory)).1, stamped s cache files),
        (run s ((stamped s cache files).index.save cache.directory)).2) := by
  rw [Cache.stamp, run_bind, run_take]
  rfl

omit [FragileHost σ] in
theorem run_put_of_error {e : CacheError} (h : (textWritten s cache files content).1 = .error e) :
    run s (cache.put files content) =
      ((.error e, cache), (textWritten s cache files content).2) := by
  rw [textWritten] at h ⊢
  rw [Cache.put, run_bind, h]
  rfl

/-- Once a module is written it is stamped. -/
theorem run_put_of_ok {path : Path} (h : (textWritten s cache files content).1 = .ok path) :
    ∃ middle, Same (textWritten s cache files content).2 middle ∧
      run s (cache.put files content) = run middle (cache.stamp files) := by
  rw [textWritten] at h ⊢
  rw [Cache.put, run_bind, h]
  generalize (run s (cache.store.write (cache.keyOf files.component) content)).2 = after
  dsimp only
  rw [run_bind]
  exact ⟨_, same_info after "wrote compiled file to cache"
    [fileField files.component, ("cached", path.text)], rfl⟩

theorem Same.fingerprintOf_eq (h : Same before after) (root : Path) (files : Dependencies) :
    fingerprintOf after root files = fingerprintOf before root files := by
  have hstamp : ∀ file, stampOf after root file = stampOf before root file := by
    intro file
    cases file with
    | none => rfl
    | some file => simp only [stampOf, Option.bind_some, h.timeOf_eq]
  rw [fingerprintOf, fingerprintOf, h.timeOf_eq, hstamp, hstamp]

/-- The cache after a module was stored: its fingerprint, taken once its text was written, is in
the index, and else nothing changed. -/
theorem cache_of_put (s : σ) (cache : Cache) (files : Dependencies) (content : String) :
    (run s (cache.put files content)).1.2 =
      if (textWritten s cache files content).1.isOk then
        stamped (textWritten s cache files content).2 cache files
      else cache := by
  cases hwritten : (textWritten s cache files content).1 with
  | error e =>
      rw [run_put_of_error hwritten]
      rfl
  | ok path =>
      obtain ⟨middle, hsame, hput⟩ := run_put_of_ok hwritten
      rw [hput, run_stamp]
      simp only [stamped, hsame.fingerprintOf_eq]
      rfl

theorem stores_textWritten (s : σ) (cache : Cache) (files : Dependencies) (content : String) :
    Stores s (spot (here s) cache.directory ++ ModuleStore.names (cache.keyOf files.component))
      content (textWritten s cache files content).1 (textWritten s cache files content).2 :=
  stores_write s cache.store (cache.keyOf files.component) content

end Storing

end Host
end ComponentCompiler
