import ComponentCompiler.Machine.Basic
import ComponentCompiler.Proofs.Build.Reading

/-!
# Two builders side by side

Two builders are run side by side from states that are related. As long as their collaborators give
the same answers, but perhaps other complaints, and what they do keeps the states related, the
builders go the same way: they build the same module or fail alike (`SideBySide.matches_build`).
-/

namespace ComponentCompiler

open Host

variable {σ : Type}

namespace Host

variable {ε α α' β β' : Type} {R : σ → σ → Prop}

/-- Two programs go the same way: from related states they return related results, and the states
after them are related. -/
def Matches (R : σ → σ → Prop) (A : α → α' → Prop) (x : StateM σ α) (y : StateM σ α') : Prop :=
  ∀ s t, R s t → A (run s x).1 (run t y).1 ∧ R (run s x).2 (run t y).2

/-- Both results are answers, and related, or both are the same failure. -/
inductive Both (A : α → α' → Prop) : Except ε α → Except ε α' → Prop
  | ok {a : α} {a' : α'} (h : A a a') : Both A (.ok a) (.ok a')
  | error (e : ε) : Both A (.error e) (.error e)

theorem Both.eq {result result' : Except ε α} (h : Both Eq result result') : result = result' := by
  cases h with
  | ok h => rw [h]
  | error e => rfl

theorem both_eq_refl (result : Except ε α) : Both Eq result result := by
  cases result with
  | ok a => exact .ok rfl
  | error e => exact .error e

theorem Both.mapError {ε' : Type} {A : α → α' → Prop} {result : Except ε α} {result' : Except ε α'}
    (h : Both A result result') (f : ε → ε') : Both A (result.mapError f) (result'.mapError f) := by
  cases h with
  | ok h => exact .ok h
  | error e => exact .error (f e)

theorem Both.mono {A A' : α → α' → Prop} {result : Except ε α} {result' : Except ε α'}
    (h : Both A result result') (hA : ∀ a a', A a a' → A' a a') : Both A' result result' := by
  cases h with
  | ok h => exact .ok (hA _ _ h)
  | error e => exact .error e

theorem Matches.mono {A A' : α → α' → Prop} {x : StateM σ α} {y : StateM σ α'}
    (h : Matches R A x y) (hA : ∀ a a', A a a' → A' a a') : Matches R A' x y :=
  fun s t hst => ⟨hA _ _ (h s t hst).1, (h s t hst).2⟩

/-- The same answer or the same failure on both sides. -/
theorem Matches.both {A : α → α → Prop} {x y : StateM σ (Except ε α)} (h : Matches R Eq x y)
    (hA : ∀ a, A a a) : Matches R (Both A) x y := by
  intro s t hst
  obtain ⟨hresult, hstate⟩ := h s t hst
  refine ⟨?_, hstate⟩
  rw [hresult]
  cases (run t y).1 with
  | ok a => exact .ok (hA a)
  | error e => exact .error e

theorem matches_pure {A : α → α' → Prop} {a : α} {a' : α'} (h : A a a') :
    Matches R A (pure a) (pure a') := fun _ _ hst => ⟨h, hst⟩

theorem Matches.bind {A : α → α' → Prop} {B : β → β' → Prop} {x : StateM σ α} {y : StateM σ α'}
    {f : α → StateM σ β} {g : α' → StateM σ β'} (hxy : Matches R A x y)
    (hfg : ∀ a a', A a a' → Matches R B (f a) (g a')) : Matches R B (x >>= f) (y >>= g) := by
  intro s t hst
  rw [run_bind, run_bind]
  exact hfg _ _ (hxy s t hst).1 _ _ (hxy s t hst).2

/-- Steps that may fail, one after the other. -/
theorem Matches.andThen {A : α → α' → Prop} {B : β → β' → Prop} {x : ExceptT ε (StateM σ) α}
    {y : ExceptT ε (StateM σ) α'} {f : α → ExceptT ε (StateM σ) β}
    {g : α' → ExceptT ε (StateM σ) β'} (hxy : Matches R (Both A) x.run y.run)
    (hfg : ∀ a a', A a a' → Matches R (Both B) (f a).run (g a').run) :
    Matches R (Both B) (x >>= f).run (y >>= g).run := by
  rw [ExceptT.run_bind, ExceptT.run_bind]
  refine hxy.bind fun result result' hresult => ?_
  cases hresult with
  | ok h => exact hfg _ _ h
  | error e => exact matches_pure (.error e)

/-- Steps that cannot fail. -/
theorem Matches.lift {A : α → α' → Prop} {x : StateM σ α} {y : StateM σ α'} (h : Matches R A x y) :
    Matches R (Both A) (ExceptT.lift x : ExceptT ε _ α).run (ExceptT.lift y : ExceptT ε _ α').run :=
  h.bind fun _ _ ha => matches_pure (.ok ha)

end Host

variable [Files (StateM σ)] [Journal (StateM σ)] {R : σ → σ → Prop}

namespace Builder

/-- Two builders are run side by side. Texts and answers are the same on both sides, complaints
apart; the diagnostics that are made of these are related, and delivering related diagnostics keeps
the states related. -/
structure SideBySide (R : σ → σ → Prop) (D : List Diagnostic → List Diagnostic → Prop)
    (builder builder' : Builder (StateM σ)) : Prop where
  readText (path : Path) : Matches R Eq (Files.readText path) (Files.readText path)
  record (event : Event) : Matches R Eq (Journal.record event) (Journal.record event)
  version : builder'.version = builder.version
  variant : builder'.variant = builder.variant
  format : builder'.options.format = builder.options.format
  transpilerOptions : builder'.options.transpilerOptions = builder.options.transpilerOptions
  parse (source name : String) :
    Matches R (Both fun output output' => output'.descriptor = output.descriptor ∧
        ∀ text, D (output.errors.map (located .parserError 0 text))
          (output'.errors.map (located .parserError 0 text)))
      (builder.compiler.parse source name) (builder'.compiler.parse source name)
  compileScript (descriptor : Descriptor) (name : String) :
    Matches R (Both Eq) (builder.compiler.compileScript descriptor name)
      (builder'.compiler.compileScript descriptor name)
  compileTemplate (task : TemplateTask) :
    Matches R (Both fun output output' => output'.code = output.code ∧ output'.map = output.map ∧
        ∀ id text, D (templateDiagnostics id text output) (templateDiagnostics id text output'))
      (builder.compiler.compileTemplate task) (builder'.compiler.compileTemplate task)
  transpiler : builder'.transpiler.isSome = builder.transpiler.isSome
  transpile : ∀ transpiler ∈ builder.transpiler, ∀ transpiler' ∈ builder'.transpiler, ∀ task,
    Matches R (Both Eq) (transpiler.transpile task) (transpiler'.transpile task)
  deliverAll (sources : SourceSet) (file : Path) (diagnostics diagnostics' : List Diagnostic)
    (related : D diagnostics diagnostics') :
    Matches R Eq (builder.deliverAll sources file diagnostics)
      (builder'.deliverAll sources file diagnostics')

variable {D : List Diagnostic → List Diagnostic → Prop} {builder builder' : Builder (StateM σ)}

omit [Files (StateM σ)] [Journal (StateM σ)] in
theorem matches_compilerAnswer {α α' : Type} {A : α → α' → Prop} {answer : StateM σ (Answer α)}
    {answer' : StateM σ (Answer α')} (h : Matches R (Both A) answer answer') (task : CompilerTask)
    (component : Path) : Matches R (Both A) (compilerAnswer task component answer).run
      (compilerAnswer task component answer').run :=
  h.bind fun _ _ hresult => matches_pure (hresult.mapError _)

variable (hpair : SideBySide R D builder builder')

include hpair

theorem SideBySide.matches_resolve (kind : BlockKind) (content : String) (src : Option String)
    (component : Path) : Matches R (Both Eq) (BlockText.resolve kind content src component)
      (BlockText.resolve kind content src component) := by
  unfold BlockText.resolve
  split
  · exact (hpair.record _).bind fun _ _ _ => matches_pure (.ok rfl)
  · refine (hpair.record _).bind fun _ _ _ =>
      (hpair.readText _).bind fun result result' hresult => ?_
    subst hresult
    cases result with
    | error e => exact matches_pure (.error _)
    | ok text => exact matches_pure (.ok rfl)

theorem SideBySide.matches_parse (source : String) (file : Path) :
    Matches R (Both Eq) (builder.parse source file).run (builder'.parse source file).run := by
  refine (matches_compilerAnswer (hpair.parse _ _) _ _).andThen fun output output' houtput => ?_
  obtain ⟨hdescriptor, herrors⟩ := houtput
  rw [hdescriptor]
  refine (hpair.record _).lift.andThen fun _ _ _ => ?_
  refine (hpair.deliverAll _ _ _ _ (herrors _)).lift.andThen fun _ _ _ => ?_
  refine Matches.andThen (Matches.lift (A := Eq) ?_) fun _ _ _ => matches_pure (.ok rfl)
  exact (hpair.record _).bind fun _ _ _ => (hpair.record _).bind fun _ _ _ =>
    (hpair.record _).bind fun _ _ _ => hpair.record _

theorem SideBySide.matches_compileScript (file : Path) (descriptor : Descriptor) :
    Matches R (Both Eq) (builder.compileScript file descriptor).run
      (builder'.compileScript file descriptor).run := by
  refine matches_compilerAnswer ?_ _ _
  refine Matches.bind (A := fun outcome outcome' => Both Eq outcome.1 outcome'.1) ?_
    fun _ _ houtcome => matches_pure houtcome
  refine (hpair.compileScript _ _).bind fun result result' hresult => ?_
  cases hresult with
  | ok h => exact matches_pure (.ok h)
  | error e => exact matches_pure (.error e)

theorem SideBySide.matches_transpile {transpiler transpiler' : Transpiler (StateM σ)}
    (h : transpiler ∈ builder.transpiler) (h' : transpiler' ∈ builder'.transpiler) (file : Path)
    (code : String) : Matches R (Both Eq) (builder.transpile transpiler file code).run
      (builder'.transpile transpiler' file code).run := by
  refine (hpair.record _).lift.andThen fun _ _ _ => ?_
  refine Matches.andThen (A := Eq) ?_ fun output output' houtput =>
    (hpair.record _).lift.andThen fun _ _ _ => matches_pure (.ok houtput)
  rw [hpair.transpilerOptions]
  exact (hpair.transpile _ h _ h' _).bind fun _ _ hresult => matches_pure (hresult.mapError _)

theorem SideBySide.matches_finishScript (component : Path) (text : BlockText) (code : String)
    (componentMap : Option SourceMap) :
    Matches R (Both Eq) (builder.finishScript component text code componentMap).run
      (builder'.finishScript component text code componentMap).run := by
  have hsome := hpair.transpiler
  unfold finishScript
  cases htranspiler : builder.transpiler with
  | none =>
      have hnone : builder'.transpiler = none := by simpa [htranspiler] using hsome
      rw [hnone]
      exact (hpair.record _).lift.andThen fun _ _ _ => matches_pure (.ok rfl)
  | some transpiler =>
      obtain ⟨transpiler', htranspiler'⟩ : ∃ transpiler', builder'.transpiler = some transpiler' :=
        Option.isSome_iff_exists.mp (by rw [hsome, htranspiler]; rfl)
      rw [htranspiler']
      refine (hpair.record _).lift.andThen fun _ _ _ => ?_
      refine (hpair.matches_transpile htranspiler htranspiler' _ _).andThen
        fun output output' houtput => ?_
      subst houtput
      exact Matches.andThen (matches_pure (both_eq_refl _)) fun map map' hmap =>
        matches_pure (.ok (by rw [hmap]))

theorem SideBySide.matches_scriptPart (component : Path) (descriptor : Descriptor)
    (compiled : Option CompiledScript) :
    Matches R (Both Eq) (builder.scriptPart component descriptor compiled).run
      (builder'.scriptPart component descriptor compiled).run := by
  cases compiled with
  | none => exact matches_pure (.ok rfl)
  | some compiled =>
      unfold scriptPart
      rw [hpair.format]
      refine (hpair.matches_resolve _ _ _ _).andThen fun text text' htext => ?_
      subst htext
      refine Matches.andThen (matches_pure (both_eq_refl _)) fun map map' hmap => ?_
      subst hmap
      refine (hpair.matches_finishScript _ _ _ _).andThen fun result result' hresult => ?_
      subst hresult
      exact (hpair.record _).lift.andThen fun _ _ _ => matches_pure (.ok rfl)

theorem SideBySide.matches_compileTemplate (component : Path) (descriptor : Descriptor)
    (bindings : Option Json) (functional : Bool) (sources : SourceSet) (text : BlockText) :
    Matches R (Both Eq)
      (builder.compileTemplate component descriptor bindings functional sources text).run
      (builder'.compileTemplate component descriptor bindings functional sources text).run := by
  unfold Builder.compileTemplate
  rw [hpair.format]
  refine (hpair.record _).lift.andThen fun _ _ _ => ?_
  refine (matches_compilerAnswer (hpair.compileTemplate _) _ _).andThen
    fun output output' houtput => ?_
  obtain ⟨hcode, hmap, hdiagnostics⟩ := houtput
  rw [hcode, hmap]
  refine (hpair.record _).lift.andThen fun _ _ _ => ?_
  refine (hpair.deliverAll _ _ _ _ (hdiagnostics _ _)).lift.andThen fun _ _ _ => ?_
  exact Matches.andThen (matches_pure (both_eq_refl _)) fun map map' hmap =>
    matches_pure (.ok (by rw [hmap]))

theorem SideBySide.matches_templatePart (component : Path) (descriptor : Descriptor)
    (bindings : Option Json) (script : ScriptPart) (sources : SourceSet) :
    Matches R (Both Eq)
      (builder.templatePart component descriptor bindings script sources).run
      (builder'.templatePart component descriptor bindings script sources).run := by
  unfold templatePart
  rw [hpair.format]
  refine (hpair.record _).lift.andThen fun _ _ _ => ?_
  split
  · exact matches_pure (.ok rfl)
  · split
    · exact matches_pure (.ok rfl)
    · refine (hpair.matches_resolve _ _ _ _).andThen fun text text' htext => ?_
      subst htext
      exact hpair.matches_compileTemplate _ _ _ _ _ _

theorem SideBySide.matches_build (source : String) (file : Path) :
    Matches R (Both Eq) (builder.build source file).run (builder'.build source file).run := by
  have hcheck : ∀ descriptor, builder'.checkSetup file descriptor =
      builder.checkSetup file descriptor := by
    intro descriptor
    rw [checkSetup, checkSetup, hpair.variant, hpair.version]
  refine (hpair.record _).lift.andThen fun _ _ _ => ?_
  refine (hpair.matches_parse _ _).andThen fun descriptor descriptor' hdescriptor => ?_
  subst hdescriptor
  rw [hcheck]
  refine Matches.andThen (matches_pure (both_eq_refl _)) fun _ _ _ => ?_
  refine (hpair.matches_compileScript _ _).andThen fun compiled compiled' hcompiled => ?_
  subst hcompiled
  refine (hpair.matches_scriptPart _ _ _).andThen fun script script' hscript => ?_
  subst hscript
  refine (hpair.record _).lift.andThen fun _ _ _ => ?_
  refine (hpair.matches_templatePart _ _ _ _ _).andThen fun template template' h => ?_
  subst h
  refine (hpair.record _).lift.andThen fun _ _ _ => ?_
  exact (hpair.record _).lift.andThen fun _ _ _ => matches_pure (.ok rfl)

end Builder

end ComponentCompiler
