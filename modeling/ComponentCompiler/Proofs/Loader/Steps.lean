import ComponentCompiler.Proofs.Build.Reading
import ComponentCompiler.Proofs.Loader.Calls
import ComponentCompiler.Proofs.Machine.Edits

/-!
# Calls in steps

A call for one component reads the text of the component, asks the cache, builds a module, writes it
and takes its fingerprint. Between these steps others may edit any file outside the cache, and the
modules of other components may be stored (`Step`). A call that nothing comes between is a run of
these steps (`steps_of_load`).
-/

namespace ComponentCompiler

open Disk

/-- A component and a cache, of which neither has files that are the other's. -/
structure Setting where
  /-- The root and the directory of the cache. -/
  root : Path
  directory : Path
  /-- The component. -/
  file : Path
  /-- The place that relative paths start from. -/
  home : Place
  root_absolute : root.isAbsolute
  file_absolute : file.isAbsolute
  outside : ¬spot home directory <+: spot home file
  named : ModuleStore.names (root.stored file) ≠ CacheIndex.names

namespace Setting

/-- The place of the directory of the cache. -/
def area (w : Setting) : Place := spot w.home w.directory

def key (w : Setting) : String := w.root.stored w.file

/-- The place of the module of the component. -/
def artifact (w : Setting) : Place := w.area ++ ModuleStore.names w.key

end Setting

namespace Host

variable {σ : Type}

/-- A build that happened: when the text of the component was read and what it was, and when the
module was built and what it is. -/
structure Build (σ : Type) where
  read : σ
  source : String
  start : σ
  result : BuiltModule

/-- How far a call for the component has come. -/
inductive Phase (σ : Type) where
  | idle
  | read (seen : σ) (source : String)
  | missed (seen : σ) (source : String)
  | built (build : Build σ)
  | written (build : Build σ)

/-- A moment between two steps, and what happened before it: the builds, and the states that were
left, the last one first. -/
structure Moment (σ : Type) where
  host : σ
  cache : Cache
  phase : Phase σ := .idle
  builds : List (Build σ) := []
  past : List σ := []

/-- The states up to a moment. -/
def Moment.seen (m : Moment σ) : List σ := m.host :: m.past

/-- The host goes over to another state. -/
def Moment.next (m : Moment σ) (after : σ) : Moment σ := { m with host := after, past := m.seen }

variable [Files (StateM σ)] [Journal (StateM σ)] [Host σ]

/-- A file holds something else, with another time, and nothing else changed. -/
structure Edited (before after : σ) (p : Place) (held : Content × Timestamp) : Prop where
  file : ((disk before).fileAt p).isSome
  node : (disk after).node? p = some (.file held.1 held.2)
  others : ∀ q, q ≠ p → (disk after).node? q = (disk before).node? q
  here : here after = here before

variable {w : Setting} {builder : Builder (StateM σ)} {m m' : Moment σ} {build : Build σ}

/-- The files that a module was made from have not been edited since they were read, and the
external ones have a time. -/
structure Build.Steady (w : Setting) (build : Build σ) (s : σ) : Prop where
  component : (disk s).fileAt (spot w.home w.file) = (disk build.read).fileAt (spot w.home w.file)
  externals : ∀ path ∈ build.result.dependencies.externals,
    (disk s).fileAt (spot w.home path) = (disk build.start).fileAt (spot w.home path)
  timed : ∀ path ∈ build.result.dependencies.externals, (timeOf s path).isSome

/-- One step of a call, or an edit. A fingerprint is only taken where that is allowed. No block of
the component stands in a file of the cache, and an edit gives a file a time that it never had. -/
inductive Step (w : Setting) (builder : Builder (StateM σ)) (allowed : Build σ → σ → Prop) :
    Moment σ → Moment σ → Prop
  /-- Something happens that no file shows. -/
  | told (m : Moment σ) (after : σ) (same : Same m.host after) :
      Step w builder allowed m (m.next after)
  | read (m : Moment σ) (source : String) (phase : m.phase = .idle)
      (text : (disk m.host).readText (here m.host) w.file = .ok source) :
      Step w builder allowed m { m with phase := .read m.host source }
  | served (m : Moment σ) (seen : σ) (source code : String) (phase : m.phase = .read seen source)
      (hit : (run m.host (m.cache.get? w.file)).1 = some code) :
      Step w builder allowed m
        { m.next (run m.host (m.cache.get? w.file)).2 with phase := .idle }
  | missed (m : Moment σ) (seen : σ) (source : String) (phase : m.phase = .read seen source)
      (miss : (run m.host (m.cache.get? w.file)).1 = none) :
      Step w builder allowed m
        { m.next (run m.host (m.cache.get? w.file)).2 with phase := .missed seen source }
  | built (m : Moment σ) (seen : σ) (source : String) (result : BuiltModule)
      (phase : m.phase = .missed seen source)
      (answer : (run m.host (builder.build source w.file).run).1 = .ok result)
      (outside : ∀ path ∈ result.dependencies.externals, ¬w.area <+: spot w.home path) :
      Step w builder allowed m
        { m.next (run m.host (builder.build source w.file).run).2 with
          phase := .built ⟨seen, source, m.host, result⟩
          builds := ⟨seen, source, m.host, result⟩ :: m.builds }
  | refused (m : Moment σ) (seen : σ) (source : String) (e : BuildError)
      (phase : m.phase = .missed seen source)
      (answer : (run m.host (builder.build source w.file).run).1 = .error e) :
      Step w builder allowed m
        { m.next (run m.host (builder.build source w.file).run).2 with phase := .idle }
  | written (m : Moment σ) (build : Build σ) (phase : m.phase = .built build)
      (done : (textWritten m.host m.cache build.result.dependencies build.result.code).1.isOk) :
      Step w builder allowed m
        { m.next (textWritten m.host m.cache build.result.dependencies build.result.code).2 with
          phase := .written build }
  | unwritten (m : Moment σ) (build : Build σ) (phase : m.phase = .built build)
      (failed : (textWritten m.host m.cache build.result.dependencies build.result.code).1.isOk =
        false) :
      Step w builder allowed m
        { m.next (textWritten m.host m.cache build.result.dependencies build.result.code).2 with
          phase := .idle }
  /-- The fingerprint is taken, and saved if that succeeds. -/
  | stamped (m : Moment σ) (build : Build σ) (phase : m.phase = .written build)
      (fair : allowed build m.host) :
      Step w builder allowed m
        { m.next (run m.host (m.cache.stamp build.result.dependencies)).2 with
          phase := .idle
          cache := (run m.host (m.cache.stamp build.result.dependencies)).1.2 }
  /-- The module of another component is written. -/
  | otherWritten (m : Moment σ) (files : Dependencies) (content : String)
      (other : ModuleStore.names (m.cache.keyOf files.component) ≠ ModuleStore.names w.key) :
      Step w builder allowed m (m.next (textWritten m.host m.cache files content).2)
  /-- The fingerprint of another component is taken. -/
  | otherStamped (m : Moment σ) (files : Dependencies)
      (other : ModuleStore.names (m.cache.keyOf files.component) ≠ ModuleStore.names w.key) :
      Step w builder allowed m
        { m.next (run m.host (m.cache.stamp files)).2 with
          cache := (run m.host (m.cache.stamp files)).1.2 }
  | edited (m : Moment σ) (after : σ) (p : Place) (held : Content × Timestamp)
      (edit : Edited m.host after p held) (outside : ¬w.area <+: p)
      (fresh : ∀ earlier ∈ m.seen, ∀ old, (disk earlier).fileAt p = some old →
        old.2.milliseconds? ≠ held.2.milliseconds?) :
      Step w builder allowed m (m.next after)

/-- Nothing has happened yet, and nothing is stored for the component. -/
structure Start (w : Setting) (m : Moment σ) : Prop where
  root : m.cache.root = w.root
  directory : m.cache.directory = w.directory
  home : here m.host = w.home
  fresh : Keyed.get? w.key m.cache.index.entries = none
  phase : m.phase = .idle
  builds : m.builds = []
  past : m.past = []

section Uninterrupted

variable {σ : Type} [Files (StateM σ)] [Journal (StateM σ)] [Host σ]
variable {w : Setting} {builder : Builder (StateM σ)} {m : Moment σ} {build : Build σ}
variable {allowed : Build σ → σ → Prop} {seen s : σ} {source : String}

/-- Storing what was built. -/
theorem steps_of_put (hphase : m.phase = .built build)
    (hallowed : ∀ s, Same (textWritten m.host m.cache build.result.dependencies
      build.result.code).2 s → allowed build s) :
    ∃ m' : Moment σ, Relation.ReflTransGen (Step w builder allowed) m m' ∧
      m'.host = (run m.host (m.cache.put build.result.dependencies build.result.code)).2 ∧
      m'.cache = (run m.host (m.cache.put build.result.dependencies build.result.code)).1.2 ∧
      m'.phase = .idle := by
  have hunwritten := @Step.unwritten σ _ _ _ w builder allowed m build hphase
  have hwritten := @Step.written σ _ _ _ w builder allowed m build hphase
  have herror := @run_put_of_error σ _ _ m.host m.cache build.result.dependencies build.result.code
  have hok := @run_put_of_ok σ _ _ _ m.host m.cache build.result.dependencies build.result.code
  generalize textWritten m.host m.cache build.result.dependencies build.result.code = written at *
  obtain ⟨result, after⟩ := written
  cases result with
  | error e =>
    rw [herror rfl]
    exact ⟨_, .single (hunwritten rfl), rfl, rfl, rfl⟩
  | ok path =>
    obtain ⟨middle, hsame, hput⟩ := hok rfl
    rw [hput]
    exact ⟨_, (Relation.ReflTransGen.single (hwritten rfl)).tail (.told _ middle hsame) |>.tail
      (.stamped _ build rfl (hallowed middle hsame)), rfl, rfl, rfl⟩

variable [MonadStateOf LoaderState (StateM σ)] [LoaderHost σ] {l : Loader (StateM σ)}

theorem steps_of_buildAndStore (hphase : m.phase = .missed seen source)
    (houtside : ∀ built, (run m.host (l.builder.build source w.file).run).1 = .ok built →
      ∀ path ∈ built.dependencies.externals, ¬w.area <+: spot w.home path)
    (hallowed : ∀ built s, (run m.host (l.builder.build source w.file).run).1 = .ok built →
      Same (textWritten (run m.host (l.builder.build source w.file).run).2 m.cache
        built.dependencies built.code).2 s → allowed ⟨seen, source, m.host, built⟩ s) :
    ∃ m' : Moment σ, Relation.ReflTransGen (Step w l.builder allowed) m m' ∧
      m'.host = (run m.host (l.buildAndStore m.cache source w.file)).2 ∧ m'.phase = .idle ∧
      (m'.cache = m.cache ∨ (LoaderHost.loader m'.host).cache = some m'.cache) := by
  cases hanswer : (run m.host (l.builder.build source w.file).run).1 with
  | error e =>
    rw [run_buildAndStore_of_error hanswer]
    exact ⟨_, .single (.refused m seen source e hphase hanswer), rfl, rfl, .inl rfl⟩
  | ok built =>
    rw [run_buildAndStore_of_ok hanswer]
    have hbuilt : Step w l.builder allowed m _ :=
      .built m seen source built hphase hanswer (houtside built hanswer)
    generalize hnext : ({ m.next (run m.host (l.builder.build source w.file).run).2 with
      phase := .built ⟨seen, source, m.host, built⟩
      builds := ⟨seen, source, m.host, built⟩ :: m.builds } : Moment σ) = next at hbuilt
    have hput : ∃ m' : Moment σ, Relation.ReflTransGen (Step w l.builder allowed) next m' ∧ _ :=
      steps_of_put (by rw [← hnext]) fun s hs => hallowed built s hanswer (by rwa [← hnext] at hs)
    obtain ⟨m', hsteps, hhost, hcache, hidle⟩ := hput
    have hset := same_setCache m'.host (some m'.cache)
    refine ⟨_, (hsteps.head hbuilt).tail (.told m' _ hset), ?_, hidle, .inr ?_⟩
    · subst hnext
      dsimp only [Moment.next] at hhost hcache ⊢
      rw [hhost, hcache]
    · rw [Moment.next, loader_setCache]

theorem steps_of_loadAlone (hphase : m.phase = .read seen source) (hcaching : l.caching.isSome)
    (hcache : (LoaderHost.loader m.host).cache = some m.cache)
    (houtside : ∀ s built, Same m.host s →
      (run s (l.builder.build source w.file).run).1 = .ok built →
      ∀ path ∈ built.dependencies.externals, ¬w.area <+: spot w.home path)
    (hallowed : ∀ s built s', Same m.host s →
      (run s (l.builder.build source w.file).run).1 = .ok built →
      Same (textWritten (run s (l.builder.build source w.file).run).2 m.cache
        built.dependencies built.code).2 s' → allowed ⟨seen, source, s, built⟩ s') :
    ∃ m' : Moment σ, Relation.ReflTransGen (Step w l.builder allowed) m m' ∧
      m'.host = (run m.host (l.loadAlone source w.file)).2 ∧ m'.phase = .idle ∧
      (m'.cache = m.cache ∨ (LoaderHost.loader m'.host).cache = some m'.cache) := by
  have hget := same_get? m.host m.cache w.file
  rw [run_loadAlone hcaching hcache]
  cases hserved : (run m.host (m.cache.get? w.file)).1 with
  | some code => exact ⟨_, .single (.served m seen source code hphase hserved), rfl, rfl, .inl rfl⟩
  | none =>
    have hmissed : Step w l.builder allowed m _ := .missed m seen source hphase hserved
    generalize (run m.host (m.cache.get? w.file)).2 = missed at hget hmissed ⊢
    have hstore : ∃ m' : Moment σ, Relation.ReflTransGen (Step w l.builder allowed)
        { m.next missed with phase := .missed seen source } m' ∧ _ :=
      steps_of_buildAndStore rfl (fun built => houtside missed built hget)
        fun built s hanswer => hallowed missed built s hget hanswer
    obtain ⟨m', hsteps, hhost, hidle, hcache⟩ := hstore
    exact ⟨m', hsteps.head hmissed, hhost, hidle, hcache⟩

/-- A call that is not interrupted is a run of steps, from reading the text of the component to
taking the fingerprint, if that is allowed. -/
theorem steps_of_load (hidle : m.phase = .idle) (hcaching : l.caching.isSome)
    (hbusy : (LoaderHost.loader m.host).busy = false)
    (hcache : (LoaderHost.loader m.host).cache = some m.cache)
    (htext : (disk m.host).readText (here m.host) w.file = .ok source)
    (houtside : ∀ s built, Same m.host s →
      (run s (l.builder.build source w.file).run).1 = .ok built →
      ∀ path ∈ built.dependencies.externals, ¬w.area <+: spot w.home path)
    (hallowed : ∀ s built s', Same m.host s →
      (run s (l.builder.build source w.file).run).1 = .ok built →
      Same (textWritten (run s (l.builder.build source w.file).run).2 m.cache
        built.dependencies built.code).2 s' → allowed ⟨m.host, source, s, built⟩ s') :
    ∃ m' : Moment σ, Relation.ReflTransGen (Step w l.builder allowed) m m' ∧
      m'.host = (run m.host (l.load source w.file)).2 ∧ m'.phase = .idle ∧
      (m'.cache = m.cache ∨ (LoaderHost.loader m'.host).cache = some m'.cache) := by
  have hread : Step w l.builder allowed m _ := .read m source hidle htext
  have hstarted := same_setBusy m.host true
  have hloader := loader_setBusy m.host true
  rw [run_load_of_idle hbusy]
  generalize (run m.host (Loader.setBusy true)).2 = started at hstarted hloader ⊢
  have hopen : (LoaderHost.loader started).cache = some m.cache := by rw [hloader, hcache]
  have halone : ∃ m' : Moment σ, Relation.ReflTransGen (Step w l.builder allowed)
      (Moment.next { m with phase := .read m.host source } started) m' ∧ _ :=
    steps_of_loadAlone rfl hcaching hopen (fun s built hs => houtside s built (hstarted.trans hs))
      fun s built s' hs => hallowed s built s' (hstarted.trans hs)
  obtain ⟨m', hsteps, hhost, hidle', hcache'⟩ := halone
  have hdone := same_setBusy m'.host false
  refine ⟨_, ((hsteps.head (.told _ started hstarted)).head hread).tail (.told m' _ hdone), ?_,
    hidle', ?_⟩
  · rw [Moment.next, hhost]
    rfl
  · rw [Moment.next, loader_setBusy]
    exact hcache'

end Uninterrupted

end Host
end ComponentCompiler
