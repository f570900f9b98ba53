import ComponentCompiler.Build.Module

/-!
# What the stages of a build hand on

A build is a program over a state that it cannot see into: the files, the journal and both
collaborators may answer anything. `Yields` says that a program returns a value from some state. A
program that was put together yields a value only if its parts do (`yields_bind`), and so the texts
that go into a module can be followed from stage to stage.
-/

namespace ComponentCompiler

/-- A program returns a value, from some state. -/
def Yields {σ ε α : Type} (x : ExceptT ε (StateM σ) α) (a : α) : Prop :=
  ∃ s s', x.run.run s = (.ok a, s')

section Yields

variable {σ ε α β : Type}

theorem yields_bind {x : ExceptT ε (StateM σ) α} {f : α → ExceptT ε (StateM σ) β} {b : β}
    (h : Yields (x >>= f) b) : ∃ a, Yields x a ∧ Yields (f a) b := by
  obtain ⟨s, s', h⟩ := h
  rw [ExceptT.run_bind, StateT.run_bind] at h
  cases hx : x.run.run s with
  | mk result t =>
      cases result with
      | error e =>
          rw [hx] at h
          cases h
      | ok a =>
          rw [hx] at h
          exact ⟨a, ⟨s, t, hx⟩, t, s', h⟩

theorem yields_pure {a b : α} (h : Yields (pure a : ExceptT ε (StateM σ) α) b) : a = b := by
  obtain ⟨s, s', h⟩ := h
  cases h
  rfl

/-- Naming a failure in another way does not change the answers. -/
theorem yields_mapError {ε' : Type} {x : StateM σ (Except ε α)} {f : ε → ε'} {a : α}
    (h : Yields (ExceptT.mk do return (← x).mapError f) a) : ∃ s s', x.run s = (.ok a, s') := by
  obtain ⟨s, s', h⟩ := h
  change (x >>= fun result => pure (result.mapError f)).run s = _ at h
  rw [StateT.run_bind] at h
  cases hx : x.run s with
  | mk result t =>
      rw [hx] at h
      cases result with
      | error e => cases h
      | ok b =>
          cases h
          exact ⟨s, t, hx⟩

end Yields

namespace Builder

variable {σ : Type} [Files (StateM σ)] [Journal (StateM σ)] {builder : Builder (StateM σ)}

/-- The texts that the script stage puts into the module format for a compiled script: its code as
it was read or, with a transpiler, what that answers for this code. -/
inductive HandsOver (builder : Builder (StateM σ)) (file : Path) (descriptor : Descriptor)
    (script : CompiledScript) : String → Prop
  | untranspiled {text : BlockText} (plain : builder.transpiler = none)
      (read : Yields (ExceptT.mk (BlockText.ofScript script file : StateM σ _)) text) :
      HandsOver builder file descriptor script
        (ScriptPart.untranspiled descriptor script text.content builder.options.format)
  | transpiled {text : BlockText} {transpiler : Transpiler (StateM σ)}
      {output : TranspiledScript} {s s' : σ} (chosen : builder.transpiler = some transpiler)
      (read : Yields (ExceptT.mk (BlockText.ofScript script file : StateM σ _)) text)
      (answer : (transpiler.transpile ⟨(text.external.getD file).text,
        ScriptPart.untranspiled descriptor script text.content builder.options.format,
        builder.options.transpilerOptions⟩).run s = (.ok output, s')) :
      HandsOver builder file descriptor script output.code

/-- The codes that the compiler answers for the template of a component, as it was read. -/
def Generates (builder : Builder (StateM σ)) (file : Path) (descriptor : Descriptor)
    (bindings : Option Json) (functional : Bool) (code : String) : Prop :=
  ∃ block text output s s', descriptor.template = some block ∧
    Yields (ExceptT.mk (BlockText.ofBlock block file : StateM σ _)) text ∧
    (builder.compiler.compileTemplate {
      source := text.content
      filename := (text.external.getD file).text
      isFunctional := functional
      usesTypescript := descriptor.usesTypescript
      bindings }).run s = (.ok output, s') ∧
    output.code = code

omit [Files (StateM σ)] in
theorem yields_finishScript {component : Path} {text : BlockText} {code : String}
    {componentMap : Option SourceMap} {result : String × Option SourceMap}
    (h : Yields (builder.finishScript component text code componentMap) result) :
    (builder.transpiler = none ∧ result.1 = code) ∨
      ∃ transpiler output s s', builder.transpiler = some transpiler ∧
        (transpiler.transpile ⟨(text.external.getD component).text, code,
          builder.options.transpilerOptions⟩).run s = (.ok output, s') ∧
        result.1 = output.code := by
  unfold finishScript at h
  split at h
  · rename_i hnone
    obtain ⟨-, -, h⟩ := yields_bind h
    obtain rfl := yields_pure h
    exact .inl ⟨hnone, rfl⟩
  · rename_i transpiler htranspiler
    obtain ⟨-, -, h⟩ := yields_bind h
    obtain ⟨output, houtput, h⟩ := yields_bind h
    obtain ⟨map, -, h⟩ := yields_bind h
    obtain rfl := yields_pure h
    obtain ⟨-, -, houtput⟩ := yields_bind houtput
    obtain ⟨answer, hanswer, houtput⟩ := yields_bind houtput
    obtain ⟨-, -, houtput⟩ := yields_bind houtput
    obtain rfl := yields_pure houtput
    obtain ⟨s, s', hrun⟩ := yields_mapError hanswer
    exact .inr ⟨transpiler, answer, s, s', htranspiler, hrun, rfl⟩

omit [Files (StateM σ)] in
theorem yields_compileTemplate {component : Path} {descriptor : Descriptor}
    {bindings : Option Json} {functional : Bool} {sources : SourceSet} {text : BlockText}
    {template : TemplatePart}
    (h : Yields (builder.compileTemplate component descriptor bindings functional sources text)
      template) :
    ∃ output s s', (builder.compiler.compileTemplate {
        source := text.content
        filename := (text.external.getD component).text
        isFunctional := functional
        usesTypescript := descriptor.usesTypescript
        bindings }).run s = (.ok output, s') ∧
      template.code = TemplatePart.connected output.code builder.options.format functional := by
  obtain ⟨-, -, h⟩ := yields_bind h
  obtain ⟨output, houtput, h⟩ := yields_bind h
  obtain ⟨-, -, h⟩ := yields_bind h
  obtain ⟨-, -, h⟩ := yields_bind h
  obtain ⟨map, -, h⟩ := yields_bind h
  obtain rfl := yields_pure h
  obtain ⟨s, s', hrun⟩ := yields_mapError houtput
  exact ⟨output, s, s', hrun, rfl⟩

/-- The code of a script is the text that is handed over for it, in the module format. -/
theorem yields_scriptPart {component : Path} {descriptor : Descriptor}
    {compiled : Option CompiledScript} {script : ScriptPart}
    (h : Yields (builder.scriptPart component descriptor compiled) script) :
    (compiled = none ∧ script.code = "") ∨
      ∃ given text, compiled = some given ∧ builder.HandsOver component descriptor given text ∧
        script.code = Module.inFormat text builder.options.format := by
  cases compiled with
  | none =>
      obtain rfl := yields_pure h
      exact .inl ⟨rfl, rfl⟩
  | some compiled =>
      obtain ⟨text, htext, h⟩ := yields_bind h
      obtain ⟨componentMap, -, h⟩ := yields_bind h
      obtain ⟨⟨code, map⟩, hfinished, h⟩ := yields_bind h
      obtain ⟨-, -, h⟩ := yields_bind h
      obtain rfl := yields_pure h
      refine .inr ⟨compiled, code, rfl, ?_, rfl⟩
      rcases yields_finishScript hfinished with
        ⟨hnone, rfl⟩ | ⟨transpiler, output, s, s', hchosen, hanswer, rfl⟩
      · exact .untranspiled hnone htext
      · exact .transpiled hchosen htext hanswer

/-- The code of a template stands in for one if the script renders by itself, is empty if there is
none, and else is generated and connected. -/
theorem yields_templatePart {component : Path} {descriptor : Descriptor}
    {bindings : Option Json} {script : ScriptPart} {sources : SourceSet} {template : TemplatePart}
    (h : Yields (builder.templatePart component descriptor bindings script sources) template) :
    let functional := isFunctional descriptor script
    (script.hasRender ∧
        template.code = TemplatePart.standIn builder.options.format functional) ∨
      (¬script.hasRender ∧ descriptor.template = none ∧ template.code = "") ∨
      (¬script.hasRender ∧ ∃ code,
        builder.Generates component descriptor bindings functional code ∧
        template.code = TemplatePart.connected code builder.options.format functional) := by
  obtain ⟨-, -, h⟩ := yields_bind h
  split at h
  · rename_i hrender
    obtain rfl := yields_pure h
    exact .inl ⟨hrender, rfl⟩
  · rename_i hrender
    split at h
    · rename_i hnone
      obtain rfl := yields_pure h
      exact .inr (.inl ⟨hrender, hnone, rfl⟩)
    · rename_i block hblock
      obtain ⟨text, htext, h⟩ := yields_bind h
      obtain ⟨output, s, s', hrun, hcode⟩ := yields_compileTemplate h
      exact .inr (.inr ⟨hrender, output.code,
        ⟨block, text, output, s, s', hblock, htext, hrun, rfl⟩, hcode⟩)

/-- A module is put together from a script and a template that the stages yield. -/
theorem yields_build {source : String} {file : Path} {built : BuiltModule}
    (h : Yields (builder.build source file) built) :
    ∃ descriptor compiled script template, Yields (builder.parse source file) descriptor ∧
      Yields (builder.compileScript file descriptor) compiled ∧
      Yields (builder.scriptPart file descriptor compiled) script ∧
      Yields (builder.templatePart file descriptor (compiled.bind CompiledScript.bindings) script
        ⟨[⟨file, source⟩]⟩) template ∧
      built.code = BuiltModule.assemble script template ∧
      built.dependencies = ⟨file, script.external, template.external⟩ := by
  obtain ⟨-, -, h⟩ := yields_bind h
  obtain ⟨descriptor, hdescriptor, h⟩ := yields_bind h
  obtain ⟨-, -, h⟩ := yields_bind h
  obtain ⟨compiled, hcompiled, h⟩ := yields_bind h
  obtain ⟨script, hscript, h⟩ := yields_bind h
  obtain ⟨-, -, h⟩ := yields_bind h
  obtain ⟨template, htemplate, h⟩ := yields_bind h
  obtain ⟨-, -, h⟩ := yields_bind h
  obtain ⟨-, -, h⟩ := yields_bind h
  obtain rfl := yields_pure h
  exact ⟨descriptor, compiled, script, template, hdescriptor, hcompiled, hscript, htemplate, rfl,
    rfl⟩

end Builder
end ComponentCompiler
