import ComponentCompiler.Proofs.Cache.Stored
import ComponentCompiler.Proofs.Loader.Calls

/-!
# What a loader knows between its calls

Files and the journal leave the state of a loader alone (`Secluded`), so only the steps that are its
own change it. Whatever calls there were and whatever happened to the files, a loader is idle
between two calls, and its cache, once it is open, is that of its directory with an index that can
be written and read (`Hooked.sane`).
-/

namespace ComponentCompiler

/-- A host whose files and journal leave the state of the loader alone. -/
class Secluded (σ : Type) [Files (StateM σ)] [Journal (StateM σ)]
    [MonadStateOf LoaderState (StateM σ)] [Host σ] [LoaderHost σ] : Prop where
  writeText_loader (s : σ) (path : Path) (text : String) :
    LoaderHost.loader ((Files.writeText path text : StateM σ _) s).2 = LoaderHost.loader s
  makeDirectories_loader (s : σ) (path : Path) :
    LoaderHost.loader ((Files.makeDirectories path : StateM σ _) s).2 = LoaderHost.loader s
  remove_loader (s : σ) (path : Path) :
    LoaderHost.loader ((Files.remove path : StateM σ _) s).2 = LoaderHost.loader s
  record_loader (s : σ) (event : Event) :
    LoaderHost.loader ((Journal.record event : StateM σ _) s).2 = LoaderHost.loader s

instance : Secluded World where
  writeText_loader _ _ _ := rfl
  makeDirectories_loader _ _ := rfl
  remove_loader _ _ := rfl
  record_loader _ _ := rfl

namespace Host

open Disk LoaderHost

variable {σ : Type} [Files (StateM σ)] [Journal (StateM σ)] [MonadStateOf LoaderState (StateM σ)]
variable [Host σ] [LoaderHost σ]
variable {s before after : σ} {l : Loader (StateM σ)} {cache : Cache} {caching : Caching}
  {version source code : String} {file root directory : Path} {α β ε : Type}

section Seclusion

/-- A program that leaves the state of the loader alone. -/
def KeepsLoader (program : StateM σ α) : Prop := ∀ s, loader (run s program).2 = loader s

theorem keepsLoader_pure (a : α) : KeepsLoader (pure a : StateM σ α) := fun _ => rfl

theorem KeepsLoader.bind {program : StateM σ α} {next : α → StateM σ β} (h : KeepsLoader program)
    (hnext : ∀ a, KeepsLoader (next a)) : KeepsLoader (program >>= next) := by
  intro s
  rw [run_bind, hnext _ _, h s]

/-- A program that changes nothing at all leaves the state of the loader alone. -/
theorem keepsLoader_of_snd {program : StateM σ α} (h : ∀ s, (run s program).2 = s) :
    KeepsLoader program := fun s => congrArg loader (h s)

variable [Secluded σ]

theorem keepsLoader_record (event : Event) :
    KeepsLoader (Journal.record event : StateM σ Unit) := fun s => Secluded.record_loader s event

theorem keepsLoader_info (message : String) (fields : List (String × String)) :
    KeepsLoader (Journal.info message fields : StateM σ Unit) :=
  keepsLoader_record ⟨.info, message, fields⟩

theorem keepsLoader_writeText (path : Path) (text : String) :
    KeepsLoader (Files.writeText path text : StateM σ _) :=
  fun s => Secluded.writeText_loader s path text

theorem keepsLoader_makeDirectories (path : Path) :
    KeepsLoader (Files.makeDirectories path : StateM σ _) :=
  fun s => Secluded.makeDirectories_loader s path

theorem keepsLoader_get? (cache : Cache) (file : Path) :
    KeepsLoader (cache.get? file : StateM σ _) := by
  unfold Cache.get?
  refine (keepsLoader_of_snd fun s => snd_isFresh s cache file).bind fun fresh => ?_
  split
  · refine (keepsLoader_of_snd fun s => by rw [run_read?]).bind fun content => ?_
    split
    · exact (keepsLoader_info _ _).bind fun _ => keepsLoader_pure _
    · exact keepsLoader_pure _
  · exact (keepsLoader_info _ _).bind fun _ => keepsLoader_pure _

theorem keepsLoader_save (index : CacheIndex) (directory : Path) :
    KeepsLoader (index.save directory : StateM σ _) := by
  refine (keepsLoader_makeDirectories directory).bind fun made => ?_
  split
  · exact keepsLoader_pure _
  · exact (keepsLoader_writeText _ _).bind fun _ => keepsLoader_pure _

theorem keepsLoader_removeAll (paths : List Path) :
    KeepsLoader (ModuleStore.removeAll paths : StateM σ _) := by
  induction paths with
  | nil => exact keepsLoader_pure _
  | cons path paths ih =>
    refine KeepsLoader.bind (fun s => Secluded.remove_loader s path) fun removed => ?_
    split
    · exact keepsLoader_pure _
    · exact ih.bind fun _ => keepsLoader_pure _

theorem keepsLoader_clear (store : ModuleStore) : KeepsLoader (store.clear : StateM σ _) := by
  refine (keepsLoader_of_snd fun s => by rw [run_entries]).bind fun entries => ?_
  split
  · exact keepsLoader_pure _
  · exact keepsLoader_pure _
  · exact keepsLoader_removeAll _

theorem keepsLoader_load (directory : Path) :
    KeepsLoader (CacheIndex.load directory : StateM σ _) := by
  refine (keepsLoader_of_snd fun s => by rw [run_readText]).bind fun document => ?_
  split
  · exact keepsLoader_pure _
  · split
    · exact keepsLoader_pure _
    · exact (keepsLoader_record _).bind fun _ => keepsLoader_pure _

theorem keepsLoader_openAt (root directory : Path) (version : String) :
    KeepsLoader (Cache.openAt root directory version : StateM σ _) := by
  refine (keepsLoader_info _ _).bind fun _ => KeepsLoader.bind ?_ fun _ => keepsLoader_pure _
  refine (keepsLoader_of_snd fun s => by rw [run_pathExists]).bind fun found => ?_
  refine (keepsLoader_load directory).bind fun loaded => ?_
  split
  · exact keepsLoader_pure _
  · split
    · refine (keepsLoader_info _ _).bind fun _ => (keepsLoader_clear _).bind fun cleared => ?_
      split
      · exact keepsLoader_pure _
      · exact (keepsLoader_save _ _).bind fun _ => keepsLoader_pure _
    · exact keepsLoader_pure _

end Seclusion

section Calls

theorem run_openCache_of_none (hnone : (loader s).cache = none) (caching : Caching)
    (version : String) : run s (Loader.openCache caching version) =
      match run s (Cache.openAt caching.root caching.directory version) with
      | (.error e, failed) => (.error (.cache e), failed)
      | (.ok cache, opened) => (.ok cache, (run opened (Loader.setCache (some cache))).2) := by
  rw [Loader.openCache, run_bind, run_getLoader]
  dsimp only
  rw [hnone]
  dsimp only
  rw [run_bind]
  generalize run s (Cache.openAt caching.root caching.directory version) = opened
  obtain ⟨result, opened⟩ := opened
  cases result <;> rfl

omit [Host σ] [LoaderHost σ] in
/-- With caching, a call opens the cache, asks it, and builds what it does not give. -/
theorem run_loadAlone_of_caching (hcaching : l.caching = some caching) (source : String)
    (file : Path) : run s (l.loadAlone source file) =
      match run s (Loader.openCache caching l.builder.version.raw) with
      | (.error e, failed) => (.error e, failed)
      | (.ok cache, opened) =>
        match run opened (cache.get? file) with
        | (some code, served) => (.ok code, served)
        | (none, missed) => run missed (l.buildAndStore cache source file) := by
  rw [Loader.loadAlone, hcaching]
  dsimp only
  rw [run_bind]
  generalize run s (Loader.openCache caching l.builder.version.raw) = outcome
  obtain ⟨result, opened⟩ := outcome
  cases result with
  | error e => rfl
  | ok cache =>
    dsimp only
    rw [run_bind]
    generalize run opened (cache.get? file) = asked
    obtain ⟨served, after⟩ := asked
    cases served <;> rfl

/-- The module that a call of an idle loader with caching builds, if it builds one. -/
def builtBy (s : σ) (l : Loader (StateM σ)) (source : String) (file : Path) : Option BuiltModule :=
  match l.caching with
  | none => none
  | some caching =>
    match run (run s (Loader.setBusy true)).2
        (Loader.openCache caching l.builder.version.raw) with
    | (.error _, _) => none
    | (.ok cache, opened) =>
      match run opened (cache.get? file) with
      | (some _, _) => none
      | (none, missed) => (run missed (l.builder.build source file).run).1.toOption

end Calls

section States

/-- A loader that keeps its cache in a directory, for a version of the compiler. -/
structure Serving (caching : Caching) (version : String) (l : Loader (StateM σ)) : Prop where
  caching : l.caching = some caching
  version : l.builder.version.raw = version

/-- The collaborators of a loader do not change its state while it is building. -/
def Foreign (l : Loader (StateM σ)) : Prop :=
  ∀ (s : σ) (source : String) (file : Path), (loader s).busy = true →
    loader (run s (l.builder.build source file).run).2 = loader s

/-- The states between the calls of a loader: at first it knows nothing, then there are calls, and
whatever else happens leaves what it knows alone. -/
inductive Hooked (caching : Caching) (version : String) : σ → Prop
  | new (s : σ) (fresh : loader s = {}) : Hooked caching version s
  | changed {s : σ} (hooked : Hooked caching version s) (after : σ)
      (kept : loader after = loader s) : Hooked caching version after
  | called {s : σ} (hooked : Hooked caching version s) (l : Loader (StateM σ))
      (serving : Serving caching version l) (foreign : Foreign l) (source : String) (file : Path) :
      Hooked caching version (run s (l.load source file)).2

/-- A loader is idle, and its cache is that of its directory. -/
structure Sane (caching : Caching) (version : String) (state : LoaderState) : Prop where
  idle : state.busy = false
  cache : ∀ cache ∈ state.cache, Opened caching.root caching.directory version cache

theorem sane_new (caching : Caching) (version : String) : Sane caching version {} :=
  ⟨rfl, nofun⟩

/-- How a call of a loader with a cache goes, from the state in which it is marked as busy to the
one in which the mark is taken off: what is given back, and the module that was built. -/
inductive Course (l : Loader (StateM σ)) (caching : Caching) (version source : String) (file : Path)
    (started : σ) : Except BuildError String → Option BuiltModule → σ → Prop
  /-- The cache is not opened. -/
  | unopened (e : BuildError) (failed : σ)
      (opening : run started (Loader.openCache caching version) = (.error e, failed)) :
      Course l caching version source file started (.error e) none failed
  /-- The cache has a fresh module. -/
  | served (cache : Cache) (opened : σ) (code : String) (asked : σ)
      (opening : run started (Loader.openCache caching version) = (.ok cache, opened))
      (hit : run opened (cache.get? file) = (some code, asked)) :
      Course l caching version source file started (.ok code) none asked
  /-- The cache has none, and none is built. -/
  | refused (cache : Cache) (opened missed : σ) (e : BuildError) (after : σ)
      (opening : run started (Loader.openCache caching version) = (.ok cache, opened))
      (miss : run opened (cache.get? file) = (none, missed))
      (answer : run missed (l.builder.build source file).run = (.error e, after)) :
      Course l caching version source file started (.error e) none after
  /-- The cache has none, and the module that is built is stored. -/
  | built (cache : Cache) (opened missed : σ) (module : BuiltModule) (ready : σ)
      (result : Except CacheError Unit) (stored : Cache) (after : σ)
      (opening : run started (Loader.openCache caching version) = (.ok cache, opened))
      (miss : run opened (cache.get? file) = (none, missed))
      (answer : run missed (l.builder.build source file).run = (.ok module, ready))
      (put : run ready (cache.put module.dependencies module.code) = ((result, stored), after)) :
      Course l caching version source file started
        ((result.mapError .cache).map fun _ => module.code) (some module)
        (run after (Loader.setCache (some stored))).2

/-- Every call of an idle loader goes in one of these ways. -/
theorem exists_course (hserving : Serving caching version l) (hidle : (loader s).busy = false)
    (source : String) (file : Path) : ∃ result module last,
      Course l caching version source file (run s (Loader.setBusy true)).2 result module last ∧
        builtBy s l source file = module ∧
        run s (l.load source file) = (result, (run last (Loader.setBusy false)).2) := by
  rw [run_load_of_idle hidle, run_loadAlone_of_caching hserving.caching, builtBy,
    hserving.caching]
  dsimp only
  rw [hserving.version]
  generalize (run s (Loader.setBusy true)).2 = started
  cases hopen : run started (Loader.openCache caching version) with
  | mk result opened =>
  cases result with
  | error e => exact ⟨_, _, _, .unopened e opened hopen, rfl, rfl⟩
  | ok cache =>
  dsimp only
  cases hget : run opened (cache.get? file) with
  | mk served asked =>
  cases served with
  | some code => exact ⟨_, _, _, .served cache opened code asked hopen hget, rfl, rfl⟩
  | none =>
  dsimp only
  cases hanswer : run asked (l.builder.build source file).run with
  | mk answer ready =>
  cases answer with
  | error e =>
    rw [run_buildAndStore_of_error (by rw [hanswer]), hanswer]
    exact ⟨_, _, _, .refused cache opened asked e ready hopen hget hanswer, rfl, rfl⟩
  | ok module =>
    rw [run_buildAndStore_of_ok (by rw [hanswer]), hanswer]
    dsimp only
    cases hput : run ready (cache.put module.dependencies module.code) with
    | mk outcome after =>
    exact ⟨_, _, _, .built cache opened asked module ready outcome.1 outcome.2 after hopen hget
      hanswer hput, rfl, rfl⟩

/-- The cache that is opened is the one that the loader has, or else one that is opened anew. -/
theorem openCache_cases {result : Except BuildError Cache}
    (h : run s (Loader.openCache caching version) = (result, after)) :
    (∃ cache ∈ (loader s).cache, result = .ok cache ∧ after = s) ∨
      (∃ e, run s (Cache.openAt caching.root caching.directory version) = (.error e, after) ∧
        result = .error (.cache e)) ∨
      ∃ cache opened,
        run s (Cache.openAt caching.root caching.directory version) = (.ok cache, opened) ∧
          result = .ok cache ∧ after = (run opened (Loader.setCache (some cache))).2 := by
  cases hcache : (loader s).cache with
  | some cache =>
    rw [run_openCache hcache] at h
    cases h
    exact .inl ⟨cache, rfl, rfl, rfl⟩
  | none =>
    rw [run_openCache_of_none hcache] at h
    generalize run s (Cache.openAt caching.root caching.directory version) = outcome at h ⊢
    obtain ⟨result, opened⟩ := outcome
    cases result with
    | error e =>
      cases h
      exact .inr (.inl ⟨e, rfl, rfl⟩)
    | ok cache =>
      cases h
      exact .inr (.inr ⟨cache, opened, rfl, rfl, rfl⟩)

theorem openAt_of_unopened {e : BuildError}
    (h : run s (Loader.openCache caching version) = (.error e, after)) :
    ∃ cause, (run s (Cache.openAt caching.root caching.directory version)).1 = .error cause ∧
      e = .cache cause := by
  rcases openCache_cases h with ⟨held, -, heq, -⟩ | ⟨cause, hfailed, heq⟩ |
    ⟨anew, middle, -, heq, -⟩
  · cases heq
  · cases heq
    exact ⟨cause, by rw [hfailed], rfl⟩
  · cases heq

theorem openAt_of_opened (hnone : (loader s).cache = none)
    (h : run s (Loader.openCache caching version) = (.ok cache, after)) :
    (run s (Cache.openAt caching.root caching.directory version)).1 = .ok cache := by
  rcases openCache_cases h with ⟨held, hheld, -, -⟩ | ⟨cause, -, heq⟩ |
    ⟨anew, middle, hanew, heq, -⟩
  · rw [hnone] at hheld
    cases hheld
  · cases heq
  · cases heq
    rw [hanew]

theorem opened_of_openCache {opened : σ} (h : ∀ cache ∈ (loader s).cache,
      Opened caching.root caching.directory version cache)
    (hopen : run s (Loader.openCache caching version) = (.ok cache, opened)) :
    Opened caching.root caching.directory version cache := by
  rcases openCache_cases hopen with ⟨held, hheld, heq, -⟩ | ⟨e, -, heq⟩ |
    ⟨anew, middle, hanew, heq, -⟩
  · cases heq
    exact h cache hheld
  · cases heq
  · cases heq
    exact opened_of_openAt (by rw [hanew])

variable [Secluded σ]

/-- A cache that is not opened changes nothing that the loader knows. -/
theorem loader_of_unopened {e : BuildError} {failed : σ}
    (hopen : run s (Loader.openCache caching version) = (.error e, failed)) :
    loader failed = loader s := by
  have hkeeps := keepsLoader_openAt caching.root caching.directory version s
  rcases openCache_cases hopen with ⟨held, -, heq, -⟩ | ⟨e, hfailed, -⟩ |
    ⟨anew, middle, -, heq, -⟩
  · cases heq
  · rwa [hfailed] at hkeeps
  · cases heq

/-- Once the cache is opened the loader has it. -/
theorem loader_of_opened {opened : σ}
    (hopen : run s (Loader.openCache caching version) = (.ok cache, opened)) :
    loader opened = { loader s with cache := some cache } := by
  have hkeeps := keepsLoader_openAt caching.root caching.directory version s
  rcases openCache_cases hopen with ⟨held, hheld, heq, rfl⟩ | ⟨e, -, heq⟩ |
    ⟨anew, middle, hanew, heq, rfl⟩
  · cases heq
    rw [← Option.mem_def.mp hheld]
  · cases heq
  · cases heq
    rw [hanew] at hkeeps
    rw [loader_setCache]
    exact congrArg (fun state => { state with cache := some cache }) hkeeps

/-- Asking the cache changes nothing more that the loader knows. -/
theorem loader_of_asked {opened asked : σ} {served : Option String}
    (hopen : run s (Loader.openCache caching version) = (.ok cache, opened))
    (hget : run opened (cache.get? file) = (served, asked)) :
    loader asked = { loader s with cache := some cache } := by
  have hkept := keepsLoader_get? cache file opened
  rw [hget] at hkept
  exact hkept.trans (loader_of_opened hopen)

/-- Nor does a builder that fails. -/
theorem loader_of_refused {opened missed after : σ} {e : BuildError} (hforeign : Foreign l)
    (hbusy : (loader s).busy = true)
    (hopen : run s (Loader.openCache caching version) = (.ok cache, opened))
    (hget : run opened (cache.get? file) = (none, missed))
    (hanswer : run missed (l.builder.build source file).run = (.error e, after)) :
    loader after = { loader s with cache := some cache } := by
  have hmissed := loader_of_asked hopen hget
  have hkept := hforeign missed source file (by rw [hmissed, hbusy])
  rw [hanswer] at hkept
  exact hkept.trans hmissed

/-- A call leaves a loader idle with the cache of its directory. -/
theorem Sane.load (h : Sane caching version (loader s)) (hserving : Serving caching version l)
    (hforeign : Foreign l) (source : String) (file : Path) :
    Sane caching version (loader (run s (l.load source file)).2) := by
  obtain ⟨result, module, last, hcourse, -, hload⟩ := exists_course hserving h.idle source file
  have hstarted := loader_setBusy s true
  generalize (run s (Loader.setBusy true)).2 = started at hcourse hstarted
  have hstart : ∀ cache ∈ (loader started).cache,
      Opened caching.root caching.directory version cache := by
    rw [hstarted]
    exact h.cache
  rw [hload, loader_setBusy]
  refine ⟨rfl, ?_⟩
  change ∀ held ∈ (loader last).cache, Opened caching.root caching.directory version held
  cases hcourse with
  | unopened e failed opening =>
    rw [loader_of_unopened opening]
    exact hstart
  | served cache opened code asked opening hit =>
    rw [loader_of_asked opening hit]
    rintro held ⟨⟩
    exact opened_of_openCache hstart opening
  | refused cache opened missed e after opening miss answer =>
    rw [loader_of_refused hforeign (by rw [hstarted]) opening miss answer]
    rintro held ⟨⟩
    exact opened_of_openCache hstart opening
  | built cache opened missed module ready result stored after opening miss answer put =>
    rw [loader_setCache]
    rintro held ⟨⟩
    have hput := (opened_of_openCache hstart opening).put ready module.dependencies module.code
    rwa [put] at hput

theorem Hooked.sane (h : Hooked caching version s) : Sane caching version (loader s) := by
  induction h with
  | new s fresh =>
    rw [fresh]
    exact sane_new caching version
  | changed _ after kept ih =>
    rw [kept]
    exact ih
  | called _ l serving foreign source file ih => exact ih.load serving foreign source file

end States

end Host
end ComponentCompiler
