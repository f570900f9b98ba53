import ComponentCompiler.Loader
import ComponentCompiler.Proofs.Cache.Effects

/-!
# Calls of a loader

A loader runs on a host that also keeps what the loader knows between two calls. A call with caching
serves what the cache gives, or else builds a module (`load_cases`). A machine with the state of a
loader is such a host.
-/

namespace ComponentCompiler

/-- A host that keeps the state of a loader beside its disk. -/
class LoaderHost (σ : Type) [Files (StateM σ)] [Journal (StateM σ)]
    [MonadStateOf LoaderState (StateM σ)] [Host σ] where
  loader : σ → LoaderState
  get_eq (s : σ) : (getThe LoaderState : StateM σ LoaderState) s = (loader s, s)
  modify_same (s : σ) (f : LoaderState → LoaderState) :
    Host.Same s ((modifyThe LoaderState f : StateM σ Unit) s).2
  modify_loader (s : σ) (f : LoaderState → LoaderState) :
    loader ((modifyThe LoaderState f : StateM σ Unit) s).2 = f (loader s)

/-- A machine and the state of a loader on it. -/
structure World where
  machine : Machine := {}
  loader : LoaderState := {}
  deriving Inhabited

namespace World

instance : MonadStateOf Machine (StateM World) where
  get s := (s.machine, s)
  set machine s := ((), { s with machine })
  modifyGet f s := ((f s.machine).1, { s with machine := (f s.machine).2 })

instance : MonadStateOf LoaderState (StateM World) where
  get s := (s.loader, s)
  set loader s := ((), { s with loader })
  modifyGet f s := ((f s.loader).1, { s with loader := (f s.loader).2 })

instance : Host World where
  disk s := s.machine.disk
  here s := s.machine.here
  breaksOff := False
  whole := not_false
  readText_eq _ _ := rfl
  entries_eq _ _ := rfl
  pathExists_eq _ _ := rfl
  modified_eq _ _ := rfl
  here_writeText s path text := Host.here_writeText s.machine path text
  writeText_tried s path text := Host.writeText_tried s.machine path text
  here_makeDirectories _ _ := rfl
  makeDirectories_tried s _ := .happened s.machine.now
  here_remove s path := Host.here_remove s.machine path
  remove_tried s path := Host.remove_tried s.machine path
  record_keeps s event := Host.record_keeps s.machine event

instance : LoaderHost World where
  loader := World.loader
  get_eq _ := rfl
  modify_same _ _ := ⟨rfl, rfl⟩
  modify_loader _ _ := rfl

end World

namespace Host

variable {σ : Type} [Files (StateM σ)] [Journal (StateM σ)] [MonadStateOf LoaderState (StateM σ)]
variable [Host σ] [LoaderHost σ]
variable {s : σ} {l : Loader (StateM σ)} {cache : Cache} {source code : String} {file : Path}

open LoaderHost

theorem run_getLoader (s : σ) :
    run s (getThe LoaderState) = (loader s, s) := get_eq s

theorem run_isBusy (s : σ) : run s Loader.isBusy = ((loader s).busy, s) := by
  rw [Loader.isBusy, run_bind, run_getLoader]
  rfl

theorem same_setBusy (s : σ) (busy : Bool) : Same s (run s (Loader.setBusy busy)).2 :=
  modify_same s _

theorem loader_setBusy (s : σ) (busy : Bool) :
    loader (run s (Loader.setBusy busy)).2 = { loader s with busy } := modify_loader s _

theorem same_setCache (s : σ) (cache : Option Cache) :
    Same s (run s (Loader.setCache cache)).2 :=
  modify_same s _

theorem loader_setCache (s : σ) (cache : Option Cache) :
    loader (run s (Loader.setCache cache)).2 = { loader s with cache } :=
  modify_loader s _

theorem run_openCache (hcache : (loader s).cache = some cache) (caching : Caching)
    (compilerVersion : String) :
    run s (Loader.openCache caching compilerVersion) = (.ok cache, s) := by
  rw [Loader.openCache, run_bind, run_getLoader]
  dsimp only
  rw [hcache]
  rfl

/-- A loader that is not busy is busy while it works. -/
theorem run_load_of_idle (hidle : (loader s).busy = false) (source : String) (file : Path) :
    run s (l.load source file) =
      ((run (run s (Loader.setBusy true)).2 (l.loadAlone source file)).1,
        (run (run (run s (Loader.setBusy true)).2 (l.loadAlone source file)).2
          (Loader.setBusy false)).2) := by
  rw [Loader.load, run_bind, run_isBusy, hidle]
  rfl

/-- With caching, what the cache does not give is built. -/
theorem run_loadAlone (hcaching : l.caching.isSome) (hcache : (loader s).cache = some cache)
    (source : String) (file : Path) : run s (l.loadAlone source file) =
      match (run s (cache.get? file)).1 with
      | some code => (.ok code, (run s (cache.get? file)).2)
      | none => run (run s (cache.get? file)).2 (l.buildAndStore cache source file) := by
  obtain ⟨caching, hcaching⟩ := Option.isSome_iff_exists.mp hcaching
  rw [Loader.loadAlone, hcaching]
  dsimp only
  rw [run_bind, run_openCache hcache]
  dsimp only
  rw [run_bind]
  cases (run s (cache.get? file)).1 <;> rfl

omit [Host σ] [LoaderHost σ] in
theorem run_buildAndStore_of_error {e : BuildError}
    (h : (run s (l.builder.build source file).run).1 = .error e) (cache : Cache) :
    run s (l.buildAndStore cache source file) =
      (.error e, (run s (l.builder.build source file).run).2) := by
  rw [Loader.buildAndStore, run_bind, h]
  rfl

omit [Host σ] [LoaderHost σ] in
/-- What was built is stored, and the loader keeps the cache. -/
theorem run_buildAndStore_of_ok {built : BuiltModule}
    (h : (run s (l.builder.build source file).run).1 = .ok built) (cache : Cache) :
    run s (l.buildAndStore cache source file) =
      let put := run (run s (l.builder.build source file).run).2
        (cache.put built.dependencies built.code)
      ((put.1.1.mapError BuildError.cache).map fun _ => built.code,
        (run put.2 (Loader.setCache (some put.1.2))).2) := by
  rw [Loader.buildAndStore, run_bind, h]
  dsimp only
  rw [run_bind]
  generalize run (run s (l.builder.build source file).run).2
    (cache.put built.dependencies built.code) = put
  obtain ⟨⟨result, stored⟩, after⟩ := put
  cases result <;> rfl

/-- What a loader that is not busy gives back was served by its cache, or was built. -/
theorem load_cases (hcaching : l.caching.isSome) (hidle : (loader s).busy = false)
    (hcache : (loader s).cache = some cache) (h : (run s (l.load source file)).1 = .ok code) :
    (∃ s', Same s s' ∧ (run s' (cache.get? file)).1 = some code) ∨
      ∃ s' built, Same s s' ∧ (run s' (l.builder.build source file).run).1 = .ok built ∧
        built.code = code := by
  have hbusy := same_setBusy s true
  have hloader := loader_setBusy s true
  rw [run_load_of_idle hidle] at h
  generalize (run s (Loader.setBusy true)).2 = started at h hbusy hloader
  have hopen : (loader started).cache = some cache := by rw [hloader, hcache]
  rw [run_loadAlone hcaching hopen] at h
  dsimp only at h
  have hget := same_get? started cache file
  cases hserved : (run started (cache.get? file)).1 with
  | some served =>
    rw [hserved] at h
    cases h
    exact .inl ⟨started, hbusy, hserved⟩
  | none =>
    rw [hserved] at h
    dsimp only at h
    generalize (run started (cache.get? file)).2 = missed at h hget
    cases hbuilt : (run missed (l.builder.build source file).run).1 with
    | error e =>
      rw [run_buildAndStore_of_error hbuilt] at h
      cases h
    | ok built =>
      rw [run_buildAndStore_of_ok hbuilt] at h
      dsimp only at h
      refine .inr ⟨missed, built, hbusy.trans hget, hbuilt, ?_⟩
      generalize (run (run missed (l.builder.build source file).run).2
        (cache.put built.dependencies built.code)).1.1 = result at h
      cases result with
      | error e => cases h
      | ok _ =>
        cases h
        rfl

end Host
end ComponentCompiler
