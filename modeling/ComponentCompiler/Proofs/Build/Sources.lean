import ComponentCompiler.Machine.Basic
import ComponentCompiler.Proofs.Build.Watching

/-!
# A module is made from the files that it depends on

The dependencies of a module name every external file that its build read, and no other. That they
name no other file is seen on a watched host, which notes each text that is read and otherwise runs
as the host itself (`Watched`). That they name all that matters is seen on two hosts that agree on
the texts of these files: what is built on the one is built on the other, provided that the
collaborators answer by what they are asked (`build_of_agree`).
-/

namespace ComponentCompiler

open Host

variable {σ : Type}

namespace Host

variable {ε α β : Type}

/-- A program answers the same on every state. -/
def Constant (x : StateM σ α) : Prop := ∀ s t, (run s x).1 = (run t x).1

theorem constant_pure (a : α) : Constant (pure a : StateM σ α) := fun _ _ => rfl

theorem Constant.bind {x : StateM σ α} {f : α → StateM σ β} (hx : Constant x)
    (hf : ∀ a, Constant (f a)) : Constant (x >>= f) := by
  intro s t
  rw [run_bind, run_bind, hx s t]
  exact hf _ _ _

variable [Files (StateM σ)]

/-- Two states give the same texts of some files. -/
def Agree (paths : List Path) (s t : σ) : Prop :=
  ∀ path ∈ paths, (run s (Files.readText path)).1 = (run t (Files.readText path)).1

/-- What a step answers on a state, it also answers on those that agree with it. -/
def Determined (paths : List Path) (x : ExceptT ε (StateM σ) α) (a : α) : Prop :=
  ∀ s t, Agree paths s t → (run s x.run).1 = .ok a →
    (run t x.run).1 = .ok a ∧ Agree paths (run s x.run).2 (run t x.run).2

/-- Of a step that is followed by another it is enough to know what it answers on the way to the
result. -/
theorem determined_bind {paths : List Path} {x : ExceptT ε (StateM σ) α}
    {f : α → ExceptT ε (StateM σ) β} {b : β}
    (hx : ∀ a, Yields x a → Yields (f a) b → Determined paths x a)
    (hf : ∀ a, Yields x a → Yields (f a) b → Determined paths (f a) b) :
    Determined paths (x >>= f) b := by
  intro s t hst hb
  rw [ExceptT.run_bind, run_bind] at hb
  rw [ExceptT.run_bind, run_bind, run_bind]
  cases hresult : (run s x.run).1 with
  | error e =>
      rw [hresult] at hb
      cases hb
  | ok a =>
      rw [hresult] at hb
      have hyield : Yields x a := yields_of_run hresult
      obtain ⟨hsame, hagree⟩ := hx a hyield (yields_of_run hb) s t hst hresult
      rw [hsame]
      exact hf a hyield (yields_of_run hb) _ _ hagree hb

variable [Journal (StateM σ)] [Host σ]

theorem agree_of_same {paths : List Path} {s s' t t' : σ} (hst : Agree paths s t) (hs : Same s s')
    (ht : Same t t') : Agree paths s' t' := by
  intro path hpath
  have h := hst path hpath
  rw [run_readText, run_readText] at h ⊢
  rwa [hs.disk, hs.here, ht.disk, ht.here]

/-- A step that only reads and answers the same on every state. -/
theorem determined_of_constant {paths : List Path} {x : ExceptT ε (StateM σ) α} {a : α}
    (hreads : Reads x.run) (hconstant : Constant x.run) : Determined paths x a :=
  fun s t hst h => ⟨hconstant s t ▸ h, agree_of_same hst (hreads s) (hreads t)⟩

/-- A result that is settled. -/
theorem determined_done {paths : List Path} (result : Except ε α) (a : α) :
    Determined paths (ExceptT.mk (pure result) : ExceptT ε (StateM σ) α) a :=
  determined_of_constant (reads_pure _) (constant_pure _)

/-- A step that only tells something. -/
theorem determined_lift {paths : List Path} {x : StateM σ Unit} (hreads : Reads x) :
    Determined paths (ExceptT.lift x : ExceptT ε _ Unit) () :=
  determined_of_constant hreads.lift fun _ _ => rfl

/-- A step that only tells something, before another one. -/
theorem determined_told {paths : List Path} {x : StateM σ Unit} (hreads : Reads x)
    {f : Unit → ExceptT ε (StateM σ) β} {b : β} (hf : Determined paths (f ()) b) :
    Determined paths (ExceptT.lift x >>= f) b :=
  determined_bind (fun _ _ _ => determined_lift hreads) fun _ _ _ => hf

end Host

namespace BlockText

variable [Files (StateM σ)] [Journal (StateM σ)] [Host σ]

/-- The text of a block in a file of its own is the text of the file. -/
theorem run_resolve_some (s : σ) (kind : BlockKind) (content src : String) (component : Path) :
    (run s (BlockText.resolve kind content (some src) component)).1 =
      match (run s (Files.readText (externalPath component src))).1 with
      | .error cause => .error (.block kind (externalPath component src) cause)
      | .ok content => .ok ⟨content, some (externalPath component src)⟩ := by
  obtain ⟨event, hresolve⟩ : ∃ event, (BlockText.resolve kind content (some src) component :
      StateM σ _) = (do
        Journal.record event
        match ← Files.readText (externalPath component src) with
        | .error cause => return .error (.block kind (externalPath component src) cause)
        | .ok content => return .ok ⟨content, some (externalPath component src)⟩) := ⟨_, rfl⟩
  have hsame : Same s (run s (Journal.record event)).2 := reads_record event s
  rw [hresolve, run_bind, run_bind, run_readText, run_readText, hsame.disk, hsame.here]
  cases (disk s).readText (here s) (externalPath component src) <;> rfl

/-- A text that was read from a file is the same wherever the file has the same text. -/
theorem determined_resolve {paths : List Path} (kind : BlockKind) (content : String)
    (src : Option String) (component : Path) {text : BlockText}
    (h : ∀ path ∈ text.external, path ∈ paths) :
    Determined paths (ExceptT.mk (BlockText.resolve kind content src component :
      StateM σ (Except BuildError BlockText))) text := by
  intro s t hst hresult
  have hreads : ∀ s : σ, Same s (run s (BlockText.resolve kind content src component)).2 :=
    BlockText.reads_resolve kind content src component
  refine ⟨?_, agree_of_same hst (hreads s) (hreads t)⟩
  cases src with
  | none => exact hresult
  | some src =>
      change (run s (BlockText.resolve kind content (some src) component)).1 = _ at hresult
      change (run t (BlockText.resolve kind content (some src) component)).1 = _
      rw [run_resolve_some] at hresult ⊢
      split at hresult
      · cases hresult
      · rename_i content' hread
        cases hresult
        rw [← hst _ (h _ rfl), hread]

end BlockText

namespace Builder

section Determined

variable [Files (StateM σ)] [Journal (StateM σ)] [Host σ]

/-- The collaborators of a builder are functions of what they are asked. -/
structure Functional (builder : Builder (StateM σ)) : Prop extends LeavesFiles builder where
  parse_constant (source name : String) : Constant (builder.compiler.parse source name)
  compileScript_constant (descriptor : Descriptor) (name : String) :
    Constant (builder.compiler.compileScript descriptor name)
  compileTemplate_constant (task : TemplateTask) :
    Constant (builder.compiler.compileTemplate task)
  transpile_constant : ∀ transpiler ∈ builder.transpiler, ∀ task,
    Constant (transpiler.transpile task)

variable {builder : Builder (StateM σ)} {paths : List Path}

/-- What a collaborator answers does not depend on the state. -/
theorem determined_answer {α : Type} {x : StateM σ (Answer α)} (hreads : Reads x)
    (hconstant : Constant x) (f : AnswerError → BuildError) (a : α) :
    Determined paths (ExceptT.mk do return (← x).mapError f) a :=
  determined_of_constant (hreads.bind fun _ => reads_pure _)
    (hconstant.bind fun _ => constant_pure _)

theorem Functional.determined_parse (h : builder.Functional) (source : String) (file : Path)
    (descriptor : Descriptor) : Determined paths (builder.parse source file) descriptor := by
  refine determined_bind (fun output _ _ =>
    determined_answer (h.parse _ _) (h.parse_constant _ _) _ _) fun output _ houtput => ?_
  refine determined_told (reads_record _) (determined_told (h.deliverAll _ _ _) ?_)
  refine determined_told ?_ (determined_done _ _)
  exact (reads_record _).bind fun _ => (reads_record _).bind fun _ =>
    (reads_record _).bind fun _ => reads_record _

theorem Functional.determined_compileScript (h : builder.Functional) (file : Path)
    (descriptor : Descriptor) (compiled : Option CompiledScript) :
    Determined paths (builder.compileScript file descriptor) compiled := by
  refine determined_of_constant (h.reads_compileScript file descriptor) ?_
  refine Constant.bind ?_ fun _ => constant_pure _
  refine ((h.compileScript_constant _ _).bind fun result => ?_).bind fun _ => constant_pure _
  cases result <;> exact constant_pure _

theorem Functional.determined_finishScript (h : builder.Functional) (component : Path)
    (text : BlockText) (code : String) (componentMap : Option SourceMap)
    (result : String × Option SourceMap) :
    Determined paths (builder.finishScript component text code componentMap) result := by
  unfold finishScript
  split
  · exact determined_told (reads_record _)
      (determined_done _ _)
  · rename_i transpiler htranspiler
    refine determined_told (reads_record _) (determined_bind (fun output _ _ => ?_)
      fun output _ _ => ?_)
    · refine determined_told (reads_record _) (determined_bind (fun answer _ _ => ?_)
        fun answer _ _ => determined_told (reads_record _)
          (determined_done _ _))
      exact determined_answer (h.transpile _ htranspiler _)
        (h.transpile_constant _ htranspiler _) _ _
    · refine determined_bind (fun map _ _ => ?_) fun map _ _ => ?_
      all_goals exact determined_done _ _

theorem Functional.determined_scriptPart (h : builder.Functional) (component : Path)
    (descriptor : Descriptor) (compiled : Option CompiledScript) {script : ScriptPart}
    (hpaths : ∀ path ∈ script.external, path ∈ paths) :
    Determined paths (builder.scriptPart component descriptor compiled) script := by
  cases compiled with
  | none => exact determined_done _ _
  | some compiled =>
      refine determined_bind (fun text _ htext => ?_) fun text _ _ => ?_
      · apply BlockText.determined_resolve
        obtain ⟨_, -, htext⟩ := yields_bind htext
        obtain ⟨_, -, htext⟩ := yields_bind htext
        obtain ⟨_, -, htext⟩ := yields_bind htext
        obtain rfl := yields_pure htext
        exact hpaths
      · refine determined_bind
          (fun map _ _ => determined_done _ _) fun map _ _ => ?_
        refine determined_bind (fun result _ _ => h.determined_finishScript _ _ _ _ _)
          fun result _ _ => ?_
        exact determined_told (reads_record _)
          (determined_done _ _)

theorem Functional.determined_compileTemplate (h : builder.Functional) (component : Path)
    (descriptor : Descriptor) (bindings : Option Json) (functional : Bool) (sources : SourceSet)
    (text : BlockText) (template : TemplatePart) : Determined paths
      (builder.compileTemplate component descriptor bindings functional sources text)
      template := by
  refine determined_told (reads_record _) (determined_bind (fun output _ _ => ?_)
    fun output _ _ => ?_)
  · exact determined_answer (h.compileTemplate _) (h.compileTemplate_constant _) _ _
  · refine determined_told (reads_record _) (determined_told (h.deliverAll _ _ _) ?_)
    refine determined_bind (fun map _ _ => ?_) fun map _ _ => ?_
    all_goals exact determined_done _ _

theorem Functional.determined_templatePart (h : builder.Functional) (component : Path)
    (descriptor : Descriptor) (bindings : Option Json) (script : ScriptPart)
    (sources : SourceSet) {template : TemplatePart}
    (hpaths : ∀ path ∈ template.external, path ∈ paths) : Determined paths
      (builder.templatePart component descriptor bindings script sources) template := by
  refine determined_told (reads_record _) ?_
  split
  · exact determined_done _ _
  · split
    · exact determined_done _ _
    · refine determined_bind (fun text _ htext => ?_)
        fun text _ _ => h.determined_compileTemplate _ _ _ _ _ _ _
      apply BlockText.determined_resolve
      rwa [← external_of_compileTemplate htext]

/-- What is built from one set of files is built from every other one that has the same texts of
the files that the module depends on. -/
theorem Functional.determined_build (h : builder.Functional) (source : String) (file : Path)
    (built : BuiltModule) :
    Determined built.dependencies.externals (builder.build source file) built := by
  refine determined_told (reads_record _) (determined_bind
    (fun descriptor _ _ => h.determined_parse _ _ _) fun descriptor _ _ => ?_)
  refine determined_bind (fun _ _ _ => determined_done _ _)
    fun _ _ _ => ?_
  refine determined_bind (fun compiled _ _ => h.determined_compileScript _ _ _)
    fun compiled _ _ => ?_
  refine determined_bind (fun script _ hscript => h.determined_scriptPart _ _ _ ?_)
    fun script _ _ => determined_told (reads_record _) (determined_bind
      (fun template _ htemplate => h.determined_templatePart _ _ _ _ _ ?_) fun template _ _ => ?_)
  · obtain ⟨_, -, hscript⟩ := yields_bind hscript
    obtain ⟨_, -, hscript⟩ := yields_bind hscript
    obtain ⟨_, -, hscript⟩ := yields_bind hscript
    obtain ⟨_, -, hscript⟩ := yields_bind hscript
    obtain rfl := yields_pure hscript
    exact fun path hpath => List.mem_append_left _ (Option.mem_toList.mpr hpath)
  · obtain ⟨_, -, htemplate⟩ := yields_bind htemplate
    obtain ⟨_, -, htemplate⟩ := yields_bind htemplate
    obtain rfl := yields_pure htemplate
    exact fun path hpath => List.mem_append_right _ (Option.mem_toList.mpr hpath)
  · refine determined_told (reads_record _) (determined_told (reads_record _) ?_)
    exact determined_done _ _

end Determined

section Rendering

variable [Files (StateM σ)] [Journal (StateM σ)] {builder : Builder (StateM σ)} {file : Path}

/-- A script that renders by itself has no template beside it. -/
theorem external_of_hasRender {descriptor : Descriptor} {bindings : Option Json}
    {script : ScriptPart} {sources : SourceSet} {template : TemplatePart}
    (h : Yields (builder.templatePart file descriptor bindings script sources) template)
    (hrender : script.hasRender) : template.external = none := by
  obtain ⟨_, -, h⟩ := yields_bind h
  rw [if_pos hrender] at h
  obtain rfl := yields_pure h
  rfl

/-- The script that a module is made from, and what it means for its template. -/
theorem script_of_build {source : String} {built : BuiltModule}
    (h : Yields (builder.build source file) built) :
    ∃ descriptor compiled, Yields (builder.parse source file) descriptor ∧
      Yields (builder.compileScript file descriptor) compiled ∧
      ∀ script ∈ compiled, ∃ text,
        Yields (ExceptT.mk (BlockText.ofScript script file : StateM σ _)) text ∧
        built.dependencies.externalScript = text.external ∧
        (Module.rendersItself text.content → built.dependencies.externalTemplate = none) := by
  obtain ⟨descriptor, compiled, script, template, hdescriptor, hcompiled, hscript, htemplate, -,
    hfiles⟩ := yields_build h
  rw [hfiles]
  refine ⟨descriptor, compiled, hdescriptor, hcompiled, fun compiled hsome => ?_⟩
  obtain rfl := Option.mem_def.mp hsome
  obtain ⟨text, htext, hexternal, hrender⟩ := script_of_scriptPart hscript
  exact ⟨text, htext, hexternal,
    fun h => external_of_hasRender htemplate (hrender.trans h)⟩

end Rendering

variable [Files (StateM σ)] [Journal (StateM σ)] [Host σ] {builder : Builder (StateM σ)}
  {source : String} {file : Path} {built : BuiltModule} {s : σ}

/-- The dependencies of a module name every file that it was made from and no other: it is built
again from all files that have the same texts of these files; a watched build reads the external
files, each once, in the order in which they are named, and nothing else; and the template of a
script that renders by itself is not among them. -/
theorem build_of_agree (h : builder.Functional)
    (hbuilt : (run s (builder.build source file).run).1 = .ok built) :
    built.dependencies.component = file ∧
    (∀ t, Agree built.dependencies.externals s t →
      (run t (builder.build source file).run).1 = .ok built) ∧
    (∃ noted, run (Watched.mk s []) (builder.watched.build source file).run =
        (.ok built, ⟨(run s (builder.build source file).run).2, noted⟩) ∧
      noted.map Prod.fst = built.dependencies.externals ∧
      ∀ entry ∈ noted, (run s (Files.readText entry.1)).1 = .ok entry.2) ∧
    ∃ descriptor compiled, Yields (builder.parse source file) descriptor ∧
      Yields (builder.compileScript file descriptor) compiled ∧
      ∀ script ∈ compiled, ∃ text,
        Yields (ExceptT.mk (BlockText.ofScript script file : StateM σ _)) text ∧
        built.dependencies.externalScript = text.external ∧
        (Module.rendersItself text.content → built.dependencies.externalTemplate = none) := by
  have hyields := yields_of_run hbuilt
  refine ⟨(dependencies_of_build hyields).1,
    fun t hst => (h.determined_build source file built s t hst hbuilt).1, ?_,
    script_of_build hyields⟩
  obtain ⟨-, noted, hrun, hnoted, hreads⟩ :=
    h.toLeavesFiles.watches_build source file s [] (.refl s)
  rw [hbuilt, List.nil_append] at hrun
  exact ⟨noted, hrun, hreads built hbuilt, hnoted⟩

/-- A component with an external script and an external template, on a disk on which later another
file was written and the files were touched. -/
theorem build_of_agree_of_touched :
    let compiler : Compiler (StateM Machine) := {
      version := "2.7.0"
      parse _ _ := return .ok { descriptor := {
        script := some { kind := .script, src := some "a.js" }
        template := some { kind := .template, src := some "a.html" } } }
      compileScript _ _ := return .ok (some { content := "", src := some "a.js" })
      compileTemplate task := return .ok { code := task.source } }
    let transpiler : Transpiler (StateM Machine) := {
      transpile task := return .ok { code := task.code } }
    let builder : Builder (StateM Machine) := {
      compiler, transpiler, version := ⟨"2.7.0", 2, 7, 0⟩, variant := .legacy
      deliver := Record.announce }
    let machine := (({} : Machine).writeFile ⟨"/a.js"⟩ (.text "f()")).writeFile ⟨"/a.html"⟩
      (.text "g()")
    let later := (machine.touch ⟨"/a.js"⟩ ⟨99, 0⟩).writeFile ⟨"/b.js"⟩ (.text "h()")
    builder.Functional ∧ ∃ built, (run machine (builder.build "" ⟨"/A.vue"⟩).run).1 = .ok built ∧
      built.dependencies.externals = [⟨"/a.js"⟩, ⟨"/a.html"⟩] ∧
      (run later (builder.build "" ⟨"/A.vue"⟩).run).1 = .ok built := by
  intro compiler transpiler builder machine later
  have hfunctional : builder.Functional := {
    parse _ _ := reads_pure _
    compileScript _ _ := reads_pure _
    compileTemplate _ := reads_pure _
    transpile := by
      rintro _ ⟨⟩ task
      exact reads_pure _
    deliver _ := reads_record _
    parse_constant _ _ := constant_pure _
    compileScript_constant _ _ := constant_pure _
    compileTemplate_constant _ := constant_pure _
    transpile_constant := by
      rintro _ ⟨⟩ task
      exact constant_pure _ }
  have hrun : ((run machine (builder.build "" ⟨"/A.vue"⟩).run).1.map fun built =>
      built.dependencies.externals) = .ok [⟨"/a.js"⟩, ⟨"/a.html"⟩] := by decide +kernel
  obtain ⟨built, hbuilt, hexternals⟩ := ok_of_map hrun
  refine ⟨hfunctional, built, hbuilt, hexternals.symm, ?_⟩
  refine (build_of_agree hfunctional hbuilt).2.1 later fun path hpath => ?_
  rw [← hexternals] at hpath
  simp only [List.mem_cons, List.not_mem_nil, or_false] at hpath
  rcases hpath with rfl | rfl <;> decide +kernel

end Builder
end ComponentCompiler
