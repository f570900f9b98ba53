import ComponentCompiler.Proofs.Build.Dependencies
import ComponentCompiler.Proofs.Diagnostic.Reporting

/-!
# A build only reads

Of what a build does with files it only reads texts. So a build whose collaborators leave the files
alone leaves them as they are (`reads_build`).
-/

namespace ComponentCompiler

open Host

variable {σ : Type} [Files (StateM σ)] [Journal (StateM σ)] [Host σ]

theorem BlockText.reads_resolve (kind : BlockKind) (content : String) (src : Option String)
    (component : Path) :
    Reads (BlockText.resolve kind content src component : StateM σ _) := by
  unfold BlockText.resolve
  split
  · exact (reads_record _).bind fun _ => reads_pure _
  · refine (reads_record _).bind fun _ => (reads_readText _).bind fun result => ?_
    cases result <;> exact reads_pure _

namespace Builder

/-- The collaborators of a builder leave the files alone. -/
structure LeavesFiles (builder : Builder (StateM σ)) : Prop where
  parse (source name : String) : Reads (builder.compiler.parse source name)
  compileScript (descriptor : Descriptor) (name : String) :
    Reads (builder.compiler.compileScript descriptor name)
  compileTemplate (task : TemplateTask) : Reads (builder.compiler.compileTemplate task)
  transpile : ∀ transpiler ∈ builder.transpiler, ∀ task, Reads (transpiler.transpile task)
  deliver (record : Record) : Reads (builder.deliver record)

variable {builder : Builder (StateM σ)}

theorem LeavesFiles.deliverAll (h : builder.LeavesFiles) (sources : SourceSet) (file : Path)
    (diagnostics : List Diagnostic) : Reads (builder.deliverAll sources file diagnostics) := by
  rw [Builder.deliverAll_eq_forM]
  induction report builder.style builder.options.policy sources file.text diagnostics with
  | nil => exact reads_pure _
  | cons entry rest ih =>
    refine Reads.bind ?_ fun _ => ih
    cases entry with
    | record record => exact h.deliver record
    | silenced category => exact reads_record _

theorem reads_compilerAnswer {α : Type} {answer : StateM σ (Answer α)} (h : Reads answer)
    (task : CompilerTask) (component : Path) : Reads (compilerAnswer task component answer).run :=
  h.bind fun _ => reads_pure _

theorem LeavesFiles.reads_parse (h : builder.LeavesFiles) (source : String) (file : Path) :
    Reads (builder.parse source file).run := by
  refine (reads_compilerAnswer (h.parse _ _) _ _).andThen fun output => ?_
  refine (reads_record _).lift.andThen fun _ => ?_
  refine (h.deliverAll _ _ _).lift.andThen fun _ => ?_
  refine Reads.andThen (Reads.lift ?_) fun _ => reads_pure _
  exact (reads_record _).bind fun _ => (reads_record _).bind fun _ =>
    (reads_record _).bind fun _ => reads_record _

theorem LeavesFiles.reads_compileScript (h : builder.LeavesFiles) (file : Path)
    (descriptor : Descriptor) : Reads (builder.compileScript file descriptor).run := by
  refine reads_compilerAnswer ((Reads.bind (h.compileScript _ _) fun result => ?_).bind
    fun _ => reads_pure _) _ _
  cases result <;> exact reads_pure _

theorem LeavesFiles.reads_finishScript (h : builder.LeavesFiles) (component : Path)
    (text : BlockText) (code : String) (componentMap : Option SourceMap) :
    Reads (builder.finishScript component text code componentMap).run := by
  unfold finishScript
  split
  · exact (reads_record _).lift.andThen fun _ => reads_pure _
  · rename_i transpiler htranspiler
    refine (reads_record _).lift.andThen fun _ => ?_
    refine Reads.andThen ?_ fun output => Reads.andThen (reads_pure _) fun _ => reads_pure _
    refine (reads_record _).lift.andThen fun _ => ?_
    refine Reads.andThen ?_ fun _ => (reads_record _).lift.andThen fun _ => reads_pure _
    exact (h.transpile transpiler htranspiler _).bind fun _ => reads_pure _

theorem LeavesFiles.reads_scriptPart (h : builder.LeavesFiles) (component : Path)
    (descriptor : Descriptor) (compiled : Option CompiledScript) :
    Reads (builder.scriptPart component descriptor compiled).run := by
  cases compiled with
  | none => exact reads_pure _
  | some compiled =>
    refine Reads.andThen (BlockText.reads_resolve _ _ _ _) fun text => ?_
    refine Reads.andThen (reads_pure _) fun componentMap => ?_
    refine (h.reads_finishScript _ _ _ _).andThen fun result => ?_
    exact (reads_record _).lift.andThen fun _ => reads_pure _

theorem LeavesFiles.reads_templatePart (h : builder.LeavesFiles) (component : Path)
    (descriptor : Descriptor) (bindings : Option Json) (script : ScriptPart)
    (sources : SourceSet) :
    Reads (builder.templatePart component descriptor bindings script sources).run := by
  refine (reads_record _).lift.andThen fun _ => ?_
  split
  · exact reads_pure _
  · split
    · exact reads_pure _
    · refine Reads.andThen (BlockText.reads_resolve _ _ _ _) fun text => ?_
      refine (reads_record _).lift.andThen fun _ => ?_
      refine (reads_compilerAnswer (h.compileTemplate _) _ _).andThen fun output => ?_
      refine (reads_record _).lift.andThen fun _ => ?_
      refine (h.deliverAll _ _ _).lift.andThen fun _ => ?_
      exact Reads.andThen (reads_pure _) fun _ => reads_pure _

/-- A build leaves the files as they are if its collaborators do. -/
theorem LeavesFiles.reads_build (h : builder.LeavesFiles) (source : String) (file : Path) :
    Reads (builder.build source file).run := by
  refine (reads_record _).lift.andThen fun _ => ?_
  refine (h.reads_parse _ _).andThen fun descriptor => ?_
  refine Reads.andThen (reads_pure _) fun _ => ?_
  refine (h.reads_compileScript _ _).andThen fun compiled => ?_
  refine (h.reads_scriptPart _ _ _).andThen fun script => ?_
  refine (reads_record _).lift.andThen fun _ => ?_
  refine (h.reads_templatePart _ _ _ _ _).andThen fun template => ?_
  refine (reads_record _).lift.andThen fun _ => ?_
  exact (reads_record _).lift.andThen fun _ => reads_pure _

end Builder
end ComponentCompiler
