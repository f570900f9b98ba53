import ComponentCompiler.Proofs.Build.Pairs
import ComponentCompiler.Proofs.Loader.Hooks

/-!
# One component at a time

While a loader builds a component its collaborators may call it again, for any files and as often as
they like, and go on with what they are given. What a collaborator does before it answers is an
errand. A loader whose collaborators call the loader itself does what it would do if each of these
calls gave the source back (`reentrant_iff`): the calls of the inside change nothing but the
journal. So the loader is idle whenever it is called from outside, whatever failed before
(`one_build_at_a_time`).
-/

namespace ComponentCompiler

open Host LoaderHost

/-- Asks for the module of a component, given its text. -/
abbrev Hook (σ : Type) := (source : String) → (file : Path) → StateM σ (Except BuildError String)

section Errands

variable (σ : Type) [Files (StateM σ)] [Journal (StateM σ)] [MonadStateOf LoaderState (StateM σ)]
variable [Host σ] [LoaderHost σ]

/-- What a collaborator does before it answers. Its own work may depend on the state and change all
but what the loader knows; between its steps it calls the loader. -/
inductive Errand (α : Type) : Type 1 where
  | answer (a : α)
  | work {β : Type} (act : StateM σ β) (kept : KeepsLoader act) (next : β → Errand α)
  | call (source : String) (file : Path) (next : Except BuildError String → Errand α)

/-- Collaborators of a builder that run errands. -/
structure Staff : Type 1 where
  parse : (source filename : String) → Errand σ (Answer ParsedComponent)
  compileScript : Descriptor → (filename : String) → Errand σ (Answer (Option CompiledScript))
  compileTemplate : TemplateTask → Errand σ (Answer CompiledTemplate)
  transpile : Option (TranspilerTask → Errand σ (Answer TranspiledScript)) := none
  deliver : Record → Errand σ Unit

end Errands

variable {σ α : Type} [Files (StateM σ)] [Journal (StateM σ)]
variable [MonadStateOf LoaderState (StateM σ)] [Host σ] [LoaderHost σ]

/-- Runs an errand with a hook to call. -/
def Errand.perform (hook : Hook σ) : Errand σ α → StateM σ α
  | answer a => pure a
  | work act _ next => act >>= fun b => (next b).perform hook
  | call source file next => hook source file >>= fun result => (next result).perform hook

/-- A loader with other collaborators, which call a hook. -/
def Loader.staffed (l : Loader (StateM σ)) (staff : Staff σ) (hook : Hook σ) :
    Loader (StateM σ) where
  builder := { l.builder with
    compiler := {
      version := l.builder.compiler.version
      parse source filename := (staff.parse source filename).perform hook
      compileScript descriptor filename := (staff.compileScript descriptor filename).perform hook
      compileTemplate task := (staff.compileTemplate task).perform hook }
    transpiler := staff.transpile.map fun transpile => ⟨fun task => (transpile task).perform hook⟩
    deliver record := (staff.deliver record).perform hook }
  caching := l.caching

/-- The hook of a loader whose collaborators call this hook. -/
def Loader.Reentrant (l : Loader (StateM σ)) (staff : Staff σ) (hook : Hook σ) : Prop :=
  ∀ source file, hook source file = (l.staffed staff hook).load source file

/-- Tells that a component is being built, and gives the source back. -/
def echo : Hook σ := fun source file => do
  Journal.debug "compile in progress, returning source unchanged" [fileField file]
  return .ok source

namespace Host

variable {s t : σ} {hook hook' : Hook σ} {state : LoaderState} {l : Loader (StateM σ)}
  {staff : Staff σ} {source : String} {file : Path} {caching : Caching}

section Inside

omit [Files (StateM σ)] [Host σ] [LoaderHost σ] [MonadStateOf LoaderState (StateM σ)] in
theorem run_echo (s : σ) (source : String) (file : Path) : run s (echo source file) =
    (.ok source, (run s (Journal.debug "compile in progress, returning source unchanged"
      [fileField file])).2) := rfl

/-- A busy loader gives the source back. -/
theorem run_load_of_busy (hbusy : (loader s).busy = true) (l : Loader (StateM σ)) (source : String)
    (file : Path) : run s (l.load source file) = run s (echo source file) := by
  rw [Loader.load, run_bind, run_isBusy, hbusy]
  rfl

/-- A hook that gives the source back while a component is being built. -/
def Declining (hook : Hook σ) : Prop :=
  ∀ s : σ, (loader s).busy = true →
    ∀ source file, run s (hook source file) = run s (echo source file)

theorem declining_echo : Declining (echo : Hook σ) := fun _ _ _ _ => rfl

theorem declining_load (l : Loader (StateM σ)) : Declining l.load :=
  fun _ hbusy source file => run_load_of_busy hbusy l source file

/-- The same state on both sides, in which the loader knows what it is to know. -/
def Alike (state : LoaderState) (s t : σ) : Prop := s = t ∧ loader s = state

/-- A program that leaves the state of the loader alone goes the same way from the same state. -/
theorem KeepsLoader.matches {x : StateM σ α} (h : KeepsLoader x) :
    Matches (Alike state) Eq x x := by
  rintro s _ ⟨rfl, hloader⟩
  exact ⟨rfl, rfl, (h s).trans hloader⟩

variable [Secluded σ]

theorem loader_echo (s : σ) (source : String) (file : Path) :
    loader (run s (echo source file)).2 = loader s := Secluded.record_loader s _

/-- While a component is being built, an errand does not depend on which hook it calls. -/
theorem matches_perform (hhook : Declining hook) (hhook' : Declining hook')
    (hbusy : state.busy = true) (errand : Errand σ α) :
    Matches (Alike state) Eq (errand.perform hook) (errand.perform hook') := by
  induction errand with
  | answer a => exact matches_pure rfl
  | work act kept next ih =>
    refine Matches.bind (KeepsLoader.matches kept) fun b b' hb => ?_
    subst hb
    exact ih b
  | call source file next ih =>
    refine Matches.bind (A := Eq) ?_ fun result result' hresult => ?_
    · rintro s _ ⟨rfl, rfl⟩
      rw [hhook s hbusy, hhook' s hbusy]
      exact ⟨rfl, rfl, loader_echo s source file⟩
    · subst hresult
      exact ih result

theorem sideBySide_staffed (l : Loader (StateM σ)) (staff : Staff σ) (hhook : Declining hook)
    (hhook' : Declining hook') (hbusy : state.busy = true) :
    Builder.SideBySide (Alike state) Eq (l.staffed staff hook).builder
      (l.staffed staff hook').builder where
  readText path := KeepsLoader.matches (keepsLoader_of_snd fun s => by rw [run_readText])
  record event := (keepsLoader_record event).matches
  version := rfl
  variant := rfl
  format := rfl
  transpilerOptions := rfl
  parse source filename :=
    (matches_perform hhook hhook' hbusy (staff.parse source filename)).both
      fun _ => ⟨rfl, fun _ => rfl⟩
  compileScript descriptor filename :=
    (matches_perform hhook hhook' hbusy (staff.compileScript descriptor filename)).both fun _ => rfl
  compileTemplate task :=
    (matches_perform hhook hhook' hbusy (staff.compileTemplate task)).both
      fun _ => ⟨rfl, rfl, fun _ _ => rfl⟩
  transpiler := by simp [Loader.staffed]
  transpile transpiler htranspiler transpiler' htranspiler' task := by
    obtain ⟨transpile, htranspile, rfl⟩ := Option.map_eq_some_iff.mp htranspiler
    obtain ⟨transpile', htranspile', rfl⟩ := Option.map_eq_some_iff.mp htranspiler'
    obtain rfl := Option.mem_unique htranspile htranspile'
    exact (matches_perform hhook hhook' hbusy (transpile task)).both fun _ => rfl
  deliverAll sources file diagnostics diagnostics' hdiagnostics := by
    subst hdiagnostics
    rw [Builder.deliverAll_eq_forM, Builder.deliverAll_eq_forM]
    change Matches _ _ (List.forM (report l.builder.style l.builder.options.policy sources file.text
      diagnostics) _) (List.forM (report l.builder.style l.builder.options.policy sources file.text
      diagnostics) _)
    induction report l.builder.style l.builder.options.policy sources file.text diagnostics with
    | nil => exact matches_pure rfl
    | cons entry rest ih =>
      refine Matches.bind (A := Eq) ?_ fun _ _ _ => ih
      cases entry with
      | record record => exact matches_perform hhook hhook' hbusy (staff.deliver record)
      | silenced category => exact (keepsLoader_record _).matches

/-- A build does not depend on which hook the collaborators call, and what the loader knows does not
change meanwhile. -/
theorem run_build_staffed (l : Loader (StateM σ)) (staff : Staff σ) (hhook : Declining hook)
    (hhook' : Declining hook') (hbusy : (loader s).busy = true) (source : String) (file : Path) :
    run s ((l.staffed staff hook).builder.build source file).run =
        run s ((l.staffed staff hook').builder.build source file).run ∧
      loader (run s ((l.staffed staff hook).builder.build source file).run).2 = loader s := by
  have hpair := sideBySide_staffed l staff hhook hhook' hbusy
  obtain ⟨hresult, hstate, hloader⟩ := hpair.matches_build source file s s ⟨rfl, rfl⟩
  exact ⟨Prod.ext hresult.eq hstate, hloader⟩

end Inside

section Outside

variable [Secluded σ]

/-- Opening the cache leaves a busy loader busy. -/
theorem busy_openCache (s : σ) (caching : Caching) (version : String) :
    (loader (run s (Loader.openCache caching version)).2).busy = (loader s).busy := by
  cases hcache : (loader s).cache with
  | some cache => rw [run_openCache hcache]
  | none =>
    rw [run_openCache_of_none hcache]
    have hkeeps := keepsLoader_openAt caching.root caching.directory version s
    generalize run s (Cache.openAt caching.root caching.directory version) = outcome at hkeeps
    obtain ⟨result, opened⟩ := outcome
    cases result with
    | error e => exact congrArg LoaderState.busy hkeeps
    | ok cache =>
      dsimp only at hkeeps ⊢
      rw [loader_setCache, hkeeps]

/-- Nor does what a busy loader does depend on which hook its collaborators call. -/
theorem run_loadAlone_staffed (l : Loader (StateM σ)) (staff : Staff σ) (hhook : Declining hook)
    (hhook' : Declining hook') (hbusy : (loader s).busy = true) (source : String) (file : Path) :
    run s ((l.staffed staff hook).loadAlone source file) =
      run s ((l.staffed staff hook').loadAlone source file) := by
  have hbuild : ∀ t : σ, (loader t).busy = true →
      run t ((l.staffed staff hook).builder.build source file).run =
        run t ((l.staffed staff hook').builder.build source file).run :=
    fun t ht => (run_build_staffed l staff hhook hhook' ht source file).1
  cases hcaching : l.caching with
  | none =>
    have hnone : ∀ hook, (l.staffed staff hook).caching = none := fun _ => hcaching
    rw [Loader.loadAlone, hnone, Loader.loadAlone, hnone]
    dsimp only
    rw [run_bind, run_bind, hbuild s hbusy]
  | some caching =>
    have hsome : ∀ hook, (l.staffed staff hook).caching = some caching := fun _ => hcaching
    rw [run_loadAlone_of_caching (hsome hook), run_loadAlone_of_caching (hsome hook')]
    have hversion : ∀ hook, (l.staffed staff hook).builder.version = l.builder.version :=
      fun _ => rfl
    rw [hversion, hversion]
    have hopen := busy_openCache s caching l.builder.version.raw
    generalize run s (Loader.openCache caching l.builder.version.raw) = outcome at hopen
    obtain ⟨result, opened⟩ := outcome
    cases result with
    | error e => rfl
    | ok cache =>
      dsimp only at hopen ⊢
      have hget := keepsLoader_get? cache file opened
      generalize run opened (cache.get? file) = asked at hget
      obtain ⟨served, missed⟩ := asked
      cases served with
      | some code => rfl
      | none =>
        dsimp only at hget ⊢
        have hmissed : (loader missed).busy = true := by rw [hget, hopen, hbusy]
        rw [Loader.buildAndStore, Loader.buildAndStore, run_bind, run_bind, hbuild missed hmissed]

/-- Whatever a loader does, it does not depend on which hook its collaborators call, if that gives
the source back while a component is being built. -/
theorem run_load_staffed (l : Loader (StateM σ)) (staff : Staff σ) (hhook : Declining hook)
    (hhook' : Declining hook') (s : σ) (source : String) (file : Path) :
    run s ((l.staffed staff hook).load source file) =
      run s ((l.staffed staff hook').load source file) := by
  cases hbusy : (loader s).busy with
  | true => rw [run_load_of_busy hbusy, run_load_of_busy hbusy]
  | false =>
    have hstarted : (loader (run s (Loader.setBusy true)).2).busy = true := by
      rw [loader_setBusy]
    rw [run_load_of_idle hbusy, run_load_of_idle hbusy,
      run_loadAlone_staffed l staff hhook hhook' hstarted]

omit [Secluded σ] in
theorem declining_of_reentrant (h : l.Reentrant staff hook) : Declining hook := by
  intro s hbusy source file
  rw [h source file, run_load_of_busy hbusy]

/-- There is one hook of a loader whose collaborators call this hook: it does what the loader does
when each call of a collaborator gives the source back. -/
theorem reentrant_iff : l.Reentrant staff hook ↔ hook = (l.staffed staff echo).load := by
  constructor
  · intro h
    funext source file s
    rw [h source file]
    exact run_load_staffed l staff (declining_of_reentrant h) declining_echo s source file
  · rintro rfl source file
    funext s
    exact run_load_staffed l staff declining_echo (declining_load _) s source file

/-- The states between calls of a hook from outside, from one in which the loader is idle. Meanwhile
anything may happen that leaves what the loader knows alone. -/
inductive Visited (hook : Hook σ) (s : σ) : σ → Prop
  | start : Visited hook s s
  | meanwhile {t : σ} (visited : Visited hook s t) (after : σ) (kept : loader after = loader t) :
      Visited hook s after
  | called {t : σ} (visited : Visited hook s t) (source : String) (file : Path) :
      Visited hook s (run t (hook source file)).2

omit [Secluded σ] in
/-- A loader is idle when a call of it is over, with a module or with an error. -/
theorem idle_of_load (hidle : (loader s).busy = false) (l : Loader (StateM σ)) (source : String)
    (file : Path) : (loader (run s (l.load source file)).2).busy = false := by
  rw [run_load_of_idle hidle, loader_setBusy]

omit [Secluded σ] in
theorem Visited.idle (h : Visited hook s t) (hhook : l.Reentrant staff hook)
    (hidle : (loader s).busy = false) : (loader t).busy = false := by
  induction h with
  | start => exact hidle
  | meanwhile _ after kept ih => rw [kept, ih]
  | called _ source file ih =>
    rw [hhook source file]
    exact idle_of_load ih _ source file

theorem foreign_staffed (l : Loader (StateM σ)) (staff : Staff σ) (hhook : Declining hook) :
    Foreign (l.staffed staff hook) :=
  fun _ source file hbusy => (run_build_staffed l staff hhook hhook hbusy source file).2

/-- A loader that has no cache tries to open it. If that fails the call fails and there is no cache
afterwards; otherwise there is one, whatever else fails. -/
theorem cache_of_load (hforeign : Foreign l) (hcaching : l.caching = some caching)
    (hidle : (loader s).busy = false) (hnone : (loader s).cache = none) (source : String)
    (file : Path) :
    let opening := run (run s (Loader.setBusy true)).2
      (Cache.openAt caching.root caching.directory l.builder.version.raw)
    (∀ e, opening.1 = .error e → (run s (l.load source file)).1 = .error (.cache e)) ∧
      (loader (run s (l.load source file)).2).cache.isSome = opening.1.isOk := by
  obtain ⟨result, module, last, hcourse, -, hload⟩ :=
    exists_course (⟨hcaching, rfl⟩ : Serving caching l.builder.version.raw l) hidle source file
  have hstarted := loader_setBusy s true
  generalize (run s (Loader.setBusy true)).2 = started at hcourse hstarted
  have hunopened : (loader started).cache = none := by rw [hstarted, hnone]
  dsimp only
  rw [hload, loader_setBusy]
  dsimp only
  cases hcourse with
  | unopened e failed opening =>
    obtain ⟨cause, hfailed, rfl⟩ := openAt_of_unopened opening
    rw [hfailed, loader_of_unopened opening, hunopened]
    exact ⟨fun e he => by rw [Except.error.inj he], rfl⟩
  | served cache opened code asked opening hit =>
    rw [openAt_of_opened hunopened opening, loader_of_asked opening hit]
    exact ⟨nofun, rfl⟩
  | refused cache opened missed e after opening miss answer =>
    rw [openAt_of_opened hunopened opening,
      loader_of_refused hforeign (by rw [hstarted]) opening miss answer]
    exact ⟨nofun, rfl⟩
  | built cache opened missed module ready result stored after opening miss answer put =>
    rw [openAt_of_opened hunopened opening, loader_setCache]
    exact ⟨nofun, rfl⟩

/-- Only one component is built at a time, however the collaborators of a loader call it. A call
while a component is being built gives its source back and changes nothing but the journal. Between
the calls from outside the loader is idle, and each of them does what it would do if no collaborator
could build anything. A cache that could not be opened is opened by the next call. -/
theorem one_build_at_a_time (hhook : l.Reentrant staff hook) (hidle : (loader s).busy = false)
    (hvisited : Visited hook s t) :
    (∀ inside : σ, (loader inside).busy = true → ∀ source file, run inside (hook source file) =
      (.ok source, (run inside (Journal.debug "compile in progress, returning source unchanged"
        [fileField file])).2)) ∧
    (loader t).busy = false ∧
    ∀ source file,
      let started := (run t (Loader.setBusy true)).2
      let outcome := run started ((l.staffed staff echo).loadAlone source file)
      run t (hook source file) = (outcome.1, (run outcome.2 (Loader.setBusy false)).2) ∧
        (loader (run t (hook source file)).2).busy = false ∧
        ∀ caching ∈ l.caching, (loader t).cache = none →
          let opening := run started
            (Cache.openAt caching.root caching.directory l.builder.version.raw)
          (∀ e, opening.1 = .error e → (run t (hook source file)).1 = .error (.cache e)) ∧
            (loader (run t (hook source file)).2).cache.isSome = opening.1.isOk := by
  have hdeclining := declining_of_reentrant hhook
  have hidle' := hvisited.idle hhook hidle
  refine ⟨fun inside hbusy source file =>
      (hdeclining inside hbusy source file).trans (run_echo inside source file), hidle',
    fun source file => ⟨?_, ?_, fun caching hcaching hnone => ?_⟩⟩
  · rw [reentrant_iff.mp hhook, run_load_of_idle hidle']
  · rw [hhook source file]
    exact idle_of_load hidle' _ source file
  · rw [hhook source file]
    exact cache_of_load (foreign_staffed l staff hdeclining) hcaching hidle' hnone source file

end Outside

section Staffed

/-- What a call gave, in words. -/
def given : Except BuildError String → String
  | .ok text => text
  | .error e => e.message

/-- Collaborators that load other components, and the component itself once more, and go on with
what they are given. -/
def curious : Staff World where
  parse source filename :=
    .call "<b/>" ⟨"/p/B.vue"⟩ fun other => .call source ⟨filename⟩ fun own =>
      .answer (.ok { descriptor := {
        template := some { kind := .template, content := given other ++ given own } } })
  compileScript _ _ := .answer (.ok none)
  compileTemplate task := .call "<c/>" ⟨"/p/C.vue"⟩ fun other =>
    .answer (.ok { code := "// " ++ task.source ++ given other })
  deliver _ := .answer ()

/-- A loader with a cache. -/
def cachingLoader : Loader (StateM World) where
  builder := {
    compiler := {
      version := "2.7.0"
      parse _ _ := return .ok { descriptor := {} }
      compileScript _ _ := return .ok none
      compileTemplate _ := return .ok { code := "" } }
    version := ⟨"2.7.0", 2, 7, 0⟩
    variant := .legacy
    deliver := Record.announce }
  caching := some ⟨⟨"/p"⟩, ⟨"/p/.cache"⟩⟩

/-- A project with one component. -/
def project : World where
  machine := {
    disk := ⟨[(["p"], .directory ⟨1, 0⟩), (["p", "A.vue"], .file (.text "<a/>") ⟨2, 0⟩)]⟩ }

/-- The component is loaded. -/
def projectLoaded : Except BuildError String × World :=
  run project ((cachingLoader.staffed curious echo).load "<a/>" ⟨"/p/A.vue"⟩)

/-- The code begins with what the compiler of templates gave, and the next call is served. -/
theorem served_projectLoaded :
    projectLoaded.1.toOption = some ("// <b/><a/><c/>" ++ ("\n" ++
        Module.setOption "_compiled" "=true" ++ "\n" ++
        Module.setOption "functional" "=false" ++ "\n")) ∧
      (run projectLoaded.2
        ((cachingLoader.staffed curious echo).load "<a/>" ⟨"/p/A.vue"⟩)).1.toOption =
          projectLoaded.1.toOption := by
  decide +kernel

/-- The sources that the collaborators asked for are in the module; the loader is idle afterwards,
with a cache, and the next call is served. -/
theorem one_build_at_a_time_of_curious :
    cachingLoader.Reentrant curious (cachingLoader.staffed curious echo).load ∧
      projectLoaded.1.toOption.map (fun code => "// <b/><a/><c/>".toList.isPrefixOf code.toList) =
        some true ∧
      (loader projectLoaded.2).busy = false ∧ (loader projectLoaded.2).cache.isSome ∧
      (run projectLoaded.2
        ((cachingLoader.staffed curious echo).load "<a/>" ⟨"/p/A.vue"⟩)).1.toOption =
          projectLoaded.1.toOption := by
  have hhook : cachingLoader.Reentrant curious (cachingLoader.staffed curious echo).load :=
    reentrant_iff.mpr rfl
  have hidle : (loader project).busy = false := rfl
  obtain ⟨-, -, hfirst⟩ := one_build_at_a_time hhook hidle .start
  obtain ⟨-, hidle', hopening⟩ := hfirst "<a/>" ⟨"/p/A.vue"⟩
  have hslot := (hopening ⟨⟨"/p"⟩, ⟨"/p/.cache"⟩⟩ rfl rfl).2
  rw [← projectLoaded] at hidle' hslot
  obtain ⟨hcode, hserved⟩ := served_projectLoaded
  refine ⟨hhook, ?_, hidle', ?_, hserved⟩
  · rw [hcode, Option.map_some, String.toList_append]
    exact congrArg some (List.isPrefixOf_iff_prefix.mpr (List.prefix_append _ _))
  · rw [hslot]
    decide +kernel

end Staffed

end Host
end ComponentCompiler
