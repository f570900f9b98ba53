import ComponentCompiler.Proofs.Build.Dependencies
import ComponentCompiler.Proofs.Build.Reading

/-!
# Watching a build

A watched state notes each text that is read from a file and otherwise is the state that it holds.
A builder is watched by running its collaborators on that state. Watching changes nothing: the
watched build goes as the build itself, and notes exactly the texts of the files that the module
depends on (`watches_build`).
-/

namespace ComponentCompiler

open Host

/-- A state, and the texts that were read from files, in the order in which they were read. -/
structure Watched (σ : Type) where
  state : σ
  noted : List (Path × String) := []

namespace Watched

variable {σ α β : Type}

/-- A program that is not watched. -/
def unwatched (x : StateM σ α) : StateM (Watched σ) α := fun w =>
  ((run w.state x).1, { w with state := (run w.state x).2 })

/-- What is noted of reading a file. -/
def note (path : Path) : Except FileError String → List (Path × String)
  | .ok text => [(path, text)]
  | .error _ => []

instance [Files (StateM σ)] : Files (StateM (Watched σ)) where
  readText path w :=
    let (result, state) := run w.state (Files.readText path)
    (result, ⟨state, w.noted ++ note path result⟩)
  writeText path text := unwatched (Files.writeText path text)
  makeDirectories path := unwatched (Files.makeDirectories path)
  entries path := unwatched (Files.entries path)
  remove path := unwatched (Files.remove path)
  isFile path := unwatched (Files.isFile path)
  pathExists path := unwatched (Files.pathExists path)
  modified path := unwatched (Files.modified path)

instance [Journal (StateM σ)] : Journal (StateM (Watched σ)) where
  record event := unwatched (Journal.record event)
  showLevel level := unwatched (Journal.showLevel level)

theorem unwatched_bind (x : StateM σ α) (f : α → StateM σ β) :
    unwatched (x >>= f) = unwatched x >>= fun a => unwatched (f a) := rfl

end Watched

open Watched

variable {σ : Type}

/-- A builder whose collaborators run on the state that is watched. -/
def Builder.watched (builder : Builder (StateM σ)) : Builder (StateM (Watched σ)) where
  compiler := {
    version := builder.compiler.version
    parse source name := unwatched (builder.compiler.parse source name)
    compileScript descriptor name := unwatched (builder.compiler.compileScript descriptor name)
    compileTemplate task := unwatched (builder.compiler.compileTemplate task) }
  transpiler := builder.transpiler.map fun transpiler =>
    { transpile task := unwatched (transpiler.transpile task) }
  version := builder.version
  variant := builder.variant
  options := builder.options
  style := builder.style
  deliver record := unwatched (builder.deliver record)

variable [Files (StateM σ)] [Journal (StateM σ)] [Host σ]

section Watches

variable {ε α β : Type} {origin : σ}

/-- A watched step goes as the step itself, on states with the files of an origin. What it notes
are texts of these files, and `reads` holds of its answer and the files that were noted. -/
def Watches (origin : σ) (reads : α → List Path → Prop) (x : ExceptT ε (StateM σ) α)
    (y : ExceptT ε (StateM (Watched σ)) α) : Prop :=
  ∀ s noted, Same origin s → Same origin (run s x.run).2 ∧ ∃ new,
    run ⟨s, noted⟩ y.run = ((run s x.run).1, ⟨(run s x.run).2, noted ++ new⟩) ∧
    (∀ entry ∈ new, (run origin (Files.readText entry.1)).1 = .ok entry.2) ∧
    ∀ a, (run s x.run).1 = .ok a → reads a (new.map Prod.fst)

/-- Nothing was read. -/
def noReads (_ : α) (paths : List Path) : Prop := paths = []

theorem watches_done {reads : α → List Path → Prop} {result : Except ε α}
    (h : ∀ a, result = .ok a → reads a []) : Watches origin reads
      (ExceptT.mk (pure result) : ExceptT ε (StateM σ) α) (ExceptT.mk (pure result)) := by
  intro s noted hs
  refine ⟨hs, [], ?_, by simp, h⟩
  rw [List.append_nil]
  rfl

theorem Watches.mono {reads reads' : α → List Path → Prop} {x : ExceptT ε (StateM σ) α}
    {y : ExceptT ε (StateM (Watched σ)) α} (hxy : Watches origin reads x y)
    (h : ∀ a paths, reads a paths → reads' a paths) : Watches origin reads' x y := by
  intro s noted hs
  obtain ⟨hsame, new, hrun, hnew, hreads⟩ := hxy s noted hs
  exact ⟨hsame, new, hrun, hnew, fun a ha => h a _ (hreads a ha)⟩

theorem Watches.andThen {reads : α → List Path → Prop} {reads' : β → List Path → Prop}
    {x : ExceptT ε (StateM σ) α} {y : ExceptT ε (StateM (Watched σ)) α}
    {f : α → ExceptT ε (StateM σ) β} {g : α → ExceptT ε (StateM (Watched σ)) β}
    (hxy : Watches origin reads x y)
    (hfg : ∀ a front, reads a front →
      Watches origin (fun b back => reads' b (front ++ back)) (f a) (g a)) :
    Watches origin reads' (x >>= f) (y >>= g) := by
  intro s noted hs
  obtain ⟨hsame, new, hrun, hnew, hreads⟩ := hxy s noted hs
  rw [ExceptT.run_bind, ExceptT.run_bind, run_bind, run_bind, hrun]
  dsimp only
  cases hresult : (run s x.run).1 with
  | error e => exact ⟨hsame, new, rfl, hnew, nofun⟩
  | ok a =>
      obtain ⟨hsame', new', hrun', hnew', hreads'⟩ :=
        hfg a _ (hreads a hresult) (run s x.run).2 (noted ++ new) hsame
      refine ⟨hsame', new ++ new', ?_, ?_, ?_⟩
      · rw [← List.append_assoc]
        exact hrun'
      · intro entry hentry
        exact (List.mem_append.mp hentry).elim (hnew entry) (hnew' entry)
      · intro b hb
        rw [List.map_append]
        exact hreads' b hb

/-- A step that reads nothing, before another one. -/
theorem Watches.before {reads : β → List Path → Prop} {x : ExceptT ε (StateM σ) α}
    {y : ExceptT ε (StateM (Watched σ)) α} {f : α → ExceptT ε (StateM σ) β}
    {g : α → ExceptT ε (StateM (Watched σ)) β} (hxy : Watches origin noReads x y)
    (hfg : ∀ a, Watches origin reads (f a) (g a)) : Watches origin reads (x >>= f) (y >>= g) :=
  hxy.andThen fun a front hfront => by
    rw [show front = [] from hfront]
    exact hfg a

/-- A program that is not watched and leaves the files alone. -/
theorem watches_unwatched {x : StateM σ (Except ε α)} (h : Reads x) :
    Watches origin noReads (ExceptT.mk x) (ExceptT.mk (unwatched x)) := by
  intro s noted hs
  refine ⟨hs.trans (h s), [], ?_, by simp, fun _ _ => rfl⟩
  rw [List.append_nil]
  rfl

theorem watches_told {x : StateM σ α} (h : Reads x) : Watches origin noReads
    (ExceptT.lift x : ExceptT ε (StateM σ) α) (ExceptT.lift (unwatched x)) :=
  watches_unwatched (x := x >>= fun a => pure (Except.ok a)) (h.bind fun _ => reads_pure _)

/-- Reading a text is noted if it succeeds. -/
theorem watches_readText {reads : α → List Path → Prop} (path : Path)
    (ok : String → Except ε α) (failed : FileError → Except ε α)
    (hok : ∀ text a, ok text = .ok a → reads a [path])
    (hfailed : ∀ e a, failed e = .ok a → reads a []) :
    Watches origin reads
      (ExceptT.mk do
        match ← Files.readText path with
        | .error e => pure (failed e)
        | .ok text => pure (ok text) : ExceptT ε (StateM σ) α)
      (ExceptT.mk do
        match ← Files.readText path with
        | .error e => pure (failed e)
        | .ok text => pure (ok text)) := by
  intro s noted hs
  have hs' := run_readText s path
  have horigin := run_readText origin path
  rw [← hs.disk, ← hs.here] at horigin
  have hwatched : run (⟨s, noted⟩ : Watched σ) (Files.readText path) =
      ((run s (Files.readText path)).1, ⟨(run s (Files.readText path)).2,
        noted ++ note path (run s (Files.readText path)).1⟩) := rfl
  rw [ExceptT.run_mk, ExceptT.run_mk, run_bind, run_bind, hwatched, hs']
  cases hresult : (disk s).readText (here s) path with
  | error e => exact ⟨hs, [], rfl, by simp, hfailed e⟩
  | ok text =>
      refine ⟨hs, [(path, text)], rfl, ?_, hok text⟩
      intro entry hentry
      rw [List.mem_singleton.mp hentry, horigin, hresult]

end Watches

variable {origin : σ}

namespace BlockText

/-- The text of a block is read from its external file, if it has one, and nothing else is read. -/
theorem watches_resolve (kind : BlockKind) (content : String) (src : Option String)
    (component : Path) :
    Watches origin (fun text paths => paths = text.external.toList)
      (ExceptT.mk (BlockText.resolve kind content src component :
        StateM σ (Except BuildError BlockText)))
      (ExceptT.mk (BlockText.resolve kind content src component)) := by
  cases src with
  | none =>
      exact Watches.before (watches_told (reads_record _)) fun _ =>
        watches_done fun text h => by cases h; rfl
  | some src =>
      let path := externalPath component src
      have hread : Watches origin
          (fun (text : BlockText) paths => paths = text.external.toList) _ _ :=
        watches_readText path (fun content => Except.ok (BlockText.mk content (some path)))
          (fun cause => .error (BuildError.block kind path cause)) (by rintro text _ ⟨⟩; rfl) nofun
      exact Watches.before (watches_told (reads_record _)) fun _ => hread

end BlockText

namespace Builder

variable {builder : Builder (StateM σ)}

omit [Files (StateM σ)] [Host σ] in
theorem deliverAll_watched (builder : Builder (StateM σ)) (sources : SourceSet) (file : Path)
    (diagnostics : List Diagnostic) : builder.watched.deliverAll sources file diagnostics =
      unwatched (builder.deliverAll sources file diagnostics) := by
  rw [Builder.deliverAll_eq_forM, Builder.deliverAll_eq_forM,
    show report builder.watched.style builder.watched.options.policy =
      report builder.style builder.options.policy from rfl]
  induction report builder.style builder.options.policy sources file.text diagnostics with
  | nil => rfl
  | cons entry rest ih =>
      change (_ >>= fun _ => rest.forM _) = unwatched (_ >>= fun _ => rest.forM _)
      rw [unwatched_bind, ih]
      cases entry <;> rfl

theorem LeavesFiles.watches_parse (h : builder.LeavesFiles) (source : String) (file : Path) :
    Watches origin noReads (builder.parse source file) (builder.watched.parse source file) := by
  refine Watches.before (watches_unwatched (reads_compilerAnswer (h.parse _ _) _ _))
    fun output => ?_
  refine Watches.before (watches_told (reads_record _)) fun _ => ?_
  refine Watches.before ?_ fun _ => ?_
  · rw [deliverAll_watched]
    exact watches_told (h.deliverAll _ _ _)
  · refine Watches.before (watches_told ?_) fun _ => watches_done fun _ _ => rfl
    exact (reads_record _).bind fun _ => (reads_record _).bind fun _ =>
      (reads_record _).bind fun _ => reads_record _

theorem LeavesFiles.watches_compileScript (h : builder.LeavesFiles) (file : Path)
    (descriptor : Descriptor) : Watches origin noReads (builder.compileScript file descriptor)
      (builder.watched.compileScript file descriptor) := by
  let compile d := builder.compiler.compileScript d file.text
  have hcompile : Component.compiledScript { descriptor } (fun d => unwatched (compile d)) =
      unwatched (Component.compiledScript { descriptor } compile) := by
    change (_ >>= _) = unwatched (_ >>= _)
    rw [unwatched_bind]
    refine congrArg _ (funext fun result => ?_)
    cases result <;> rfl
  change Watches origin noReads _ (compilerAnswer _ _ do
    return (← Component.compiledScript { descriptor } fun d => unwatched (compile d)).1)
  rw [hcompile]
  exact watches_unwatched (h.reads_compileScript file descriptor)

theorem LeavesFiles.watches_finishScript (h : builder.LeavesFiles) (component : Path)
    (text : BlockText) (code : String) (componentMap : Option SourceMap) :
    Watches origin noReads (builder.finishScript component text code componentMap)
      (builder.watched.finishScript component text code componentMap) := by
  unfold finishScript
  cases htranspiler : builder.transpiler with
  | none =>
      rw [show builder.watched.transpiler = none by simp [watched, htranspiler]]
      exact Watches.before (watches_told (reads_record _)) fun _ => watches_done fun _ _ => rfl
  | some transpiler =>
      rw [show builder.watched.transpiler =
        some { transpile task := unwatched (transpiler.transpile task) } by
          simp [watched, htranspiler]]
      refine Watches.before (watches_told (reads_record _)) fun _ => ?_
      refine Watches.before ?_ fun output =>
        Watches.before (watches_done fun _ _ => rfl) fun _ => watches_done fun _ _ => rfl
      refine Watches.before (watches_told (reads_record _)) fun _ => ?_
      refine Watches.before (watches_unwatched ?_) fun output =>
        Watches.before (watches_told (reads_record _)) fun _ => watches_done fun _ _ => rfl
      exact (h.transpile _ htranspiler _).bind fun _ => reads_pure _

theorem LeavesFiles.watches_scriptPart (h : builder.LeavesFiles) (component : Path)
    (descriptor : Descriptor) (compiled : Option CompiledScript) :
    Watches origin (fun script paths => paths = script.external.toList)
      (builder.scriptPart component descriptor compiled)
      (builder.watched.scriptPart component descriptor compiled) := by
  cases compiled with
  | none => exact watches_done fun script hscript => by cases hscript; rfl
  | some compiled =>
      refine Watches.andThen (BlockText.watches_resolve _ _ _ _) fun text front hfront => ?_
      refine Watches.before (watches_done fun _ _ => rfl) fun map => ?_
      refine Watches.before (h.watches_finishScript _ _ _ _) fun result => ?_
      refine Watches.before (watches_told (reads_record _)) fun _ => watches_done ?_
      rintro script ⟨⟩
      rw [hfront, List.append_nil]

theorem LeavesFiles.watches_compileTemplate (h : builder.LeavesFiles) (component : Path)
    (descriptor : Descriptor) (bindings : Option Json) (functional : Bool) (sources : SourceSet)
    (text : BlockText) :
    Watches origin (fun template paths => paths = [] ∧ template.external = text.external)
      (builder.compileTemplate component descriptor bindings functional sources text)
      (builder.watched.compileTemplate component descriptor bindings functional sources text) := by
  refine Watches.before (watches_told (reads_record _)) fun _ => ?_
  refine Watches.before
    (watches_unwatched (reads_compilerAnswer (h.compileTemplate _) _ _)) fun output => ?_
  refine Watches.before (watches_told (reads_record _)) fun _ => ?_
  refine Watches.before ?_ fun _ => ?_
  · rw [deliverAll_watched]
    exact watches_told (h.deliverAll _ _ _)
  · refine Watches.before (watches_done fun _ _ => rfl) fun map => watches_done ?_
    rintro template ⟨⟩
    exact ⟨rfl, rfl⟩

theorem LeavesFiles.watches_templatePart (h : builder.LeavesFiles) (component : Path)
    (descriptor : Descriptor) (bindings : Option Json) (script : ScriptPart)
    (sources : SourceSet) :
    Watches origin (fun template paths => paths = template.external.toList)
      (builder.templatePart component descriptor bindings script sources)
      (builder.watched.templatePart component descriptor bindings script sources) := by
  unfold templatePart
  refine Watches.before (watches_told (reads_record _)) fun _ => ?_
  split
  · exact watches_done fun template htemplate => by cases htemplate; rfl
  · split
    · exact watches_done fun template htemplate => by cases htemplate; rfl
    · refine Watches.andThen (BlockText.watches_resolve _ _ _ _) fun text front hfront => ?_
      refine (h.watches_compileTemplate _ _ _ _ _ _).mono fun template back hback => ?_
      rw [hback.1, hback.2, hfront, List.append_nil]

/-- A watched build goes as the build itself and reads the files that the module depends on. -/
theorem LeavesFiles.watches_build (h : builder.LeavesFiles) (source : String) (file : Path) :
    Watches origin (fun built paths => paths = built.dependencies.externals)
      (builder.build source file) (builder.watched.build source file) := by
  refine Watches.before (watches_told (reads_record _)) fun _ => ?_
  refine Watches.before (h.watches_parse _ _) fun descriptor => ?_
  refine Watches.before (watches_done fun _ _ => rfl) fun _ => ?_
  refine Watches.before (h.watches_compileScript _ _) fun compiled => ?_
  refine Watches.andThen (h.watches_scriptPart _ _ _) fun script front hfront => ?_
  refine Watches.before (watches_told (reads_record _)) fun _ => ?_
  refine Watches.andThen (h.watches_templatePart _ _ _ _ _) fun template back hback => ?_
  refine Watches.before (watches_told (reads_record _)) fun _ => ?_
  refine Watches.before (watches_told (reads_record _)) fun _ => watches_done ?_
  rintro built ⟨⟩
  rw [hfront, hback, List.append_nil]
  rfl

end Builder

end ComponentCompiler
