import ComponentCompiler.Proofs.Build.Pairs
import ComponentCompiler.Proofs.Diagnostic.Reporting

/-!
# Complaints do not matter

What collaborators complain about is told and does not go into a module. Two builders whose
collaborators give the same answers, complaints apart, are run side by side, on states that a
program which does not look at what was told cannot tell apart. They go the same way
(`same_build_of_sameWork`), whatever the complaints, the policies and the styles are. Nor does
reporting a complaint fail, for a component of any text and templates that 32 bits can count, unless
it is about the end of the longest of them.
-/

namespace ComponentCompiler

open Host

variable {σ : Type}

namespace Host

variable {R : σ → σ → Prop}

/-- A program that one of two related states may run alone. -/
def Unnoticed (R : σ → σ → Prop) (x : StateM σ Unit) : Prop :=
  ∀ s t, R s t → R (run s x).2 t ∧ R s (run t x).2

theorem unnoticed_pure : Unnoticed R (pure ()) := fun _ _ hst => ⟨hst, hst⟩

theorem Unnoticed.bind {x y : StateM σ Unit} (hx : Unnoticed R x) (hy : Unnoticed R y) :
    Unnoticed R (x >>= fun _ => y) := fun s t hst =>
  ⟨(hy _ _ (hx s t hst).1).1, (hy _ _ (hx s t hst).2).2⟩

theorem Unnoticed.matches {x y : StateM σ Unit} (hx : Unnoticed R x) (hy : Unnoticed R y) :
    Matches R Eq x y := fun s t hst => ⟨rfl, (hy _ _ (hx s t hst).1).2⟩

variable [Files (StateM σ)] [Journal (StateM σ)]

/-- Related states give the same texts, and what is told makes no difference to them. -/
structure Blind (R : σ → σ → Prop) : Prop where
  readText (path : Path) : Matches R Eq (Files.readText path) (Files.readText path)
  record (event : Event) : Unnoticed R (Journal.record event)

/-- Whatever both tell, they go the same way. -/
theorem Blind.told (h : Blind R) (event event' : Event) :
    Matches R Eq (Journal.record event) (Journal.record event') :=
  (h.record event).matches (h.record event')

end Host

variable [Files (StateM σ)] [Journal (StateM σ)] {R : σ → σ → Prop}

namespace Builder

/-- Two builders do the same work: their collaborators give related states the same answers, apart
from the complaints, and nothing looks at the records that they deliver. Their policies and styles
may be any. -/
structure SameWork (R : σ → σ → Prop) (builder builder' : Builder (StateM σ)) : Prop where
  version : builder'.version = builder.version
  variant : builder'.variant = builder.variant
  format : builder'.options.format = builder.options.format
  transpilerOptions : builder'.options.transpilerOptions = builder.options.transpilerOptions
  parse (source name : String) :
    Matches R (Both fun output output' => output'.descriptor = output.descriptor)
      (builder.compiler.parse source name) (builder'.compiler.parse source name)
  compileScript (descriptor : Descriptor) (name : String) :
    Matches R (Both Eq) (builder.compiler.compileScript descriptor name)
      (builder'.compiler.compileScript descriptor name)
  compileTemplate (task : TemplateTask) :
    Matches R (Both fun output output' => output'.code = output.code ∧ output'.map = output.map)
      (builder.compiler.compileTemplate task) (builder'.compiler.compileTemplate task)
  transpiler : builder'.transpiler.isSome = builder.transpiler.isSome
  transpile : ∀ transpiler ∈ builder.transpiler, ∀ transpiler' ∈ builder'.transpiler, ∀ task,
    Matches R (Both Eq) (transpiler.transpile task) (transpiler'.transpile task)
  deliver (record : Record) :
    Unnoticed R (builder.deliver record) ∧ Unnoticed R (builder'.deliver record)

variable {builder builder' : Builder (StateM σ)}

/-- Diagnostics are delivered unnoticed. -/
theorem unnoticed_deliverAll (hblind : Blind R)
    (hdeliver : ∀ record, Unnoticed R (builder.deliver record)) (sources : SourceSet) (file : Path)
    (diagnostics : List Diagnostic) :
    Unnoticed R (builder.deliverAll sources file diagnostics) := by
  rw [Builder.deliverAll_eq_forM]
  induction report builder.style builder.options.policy sources file.text diagnostics with
  | nil => exact unnoticed_pure
  | cons entry rest ih =>
      refine Unnoticed.bind ?_ ih
      cases entry with
      | record record => exact hdeliver record
      | silenced category => exact hblind.record _

/-- Builders that do the same work go side by side, whatever is complained about. -/
theorem SameWork.sideBySide (hwork : SameWork R builder builder') (hblind : Blind R) :
    SideBySide R (fun _ _ => True) builder builder' where
  readText := hblind.readText
  record event := hblind.told event event
  version := hwork.version
  variant := hwork.variant
  format := hwork.format
  transpilerOptions := hwork.transpilerOptions
  parse source name := (hwork.parse source name).mono fun _ _ h => h.mono fun _ _ hdescriptor =>
    ⟨hdescriptor, fun _ => trivial⟩
  compileScript := hwork.compileScript
  compileTemplate task := (hwork.compileTemplate task).mono fun _ _ h => h.mono fun _ _ houtput =>
    ⟨houtput.1, houtput.2, fun _ _ => trivial⟩
  transpiler := hwork.transpiler
  transpile := hwork.transpile
  deliverAll _ _ _ _ _ :=
    (unnoticed_deliverAll hblind (fun record => (hwork.deliver record).1) _ _ _).matches
      (unnoticed_deliverAll hblind (fun record => (hwork.deliver record).2) _ _ _)

end Builder

namespace Builder

variable {builder builder' : Builder (StateM σ)}

/-- What a compiler complains about in reading a component needs no frames. -/
theorem drawable_parse (policy : Policy) (sources : SourceSet) (text : SourceText)
    (errors : List Complaint) :
    Drawable policy sources (errors.map (located .parserError 0 text)) := by
  intro d hd
  obtain ⟨hmem, hkept⟩ := List.mem_filter.mp hd
  obtain ⟨message, -, rfl⟩ := List.mem_map.mp hmem
  cases (Bool.and_eq_true_iff.mp hkept).1

/-- What a compiler complains about in a template that 32 bits can count has its frame drawn, unless
the frame overflows. -/
theorem drawnFrame?_of_template {sources : SourceSet} {id : Nat} {text : SourceText}
    {output : CompiledTemplate} (hget : sources.get? id = some text) (hfile : id ≠ Span.noFile)
    (fits : text.length < 2 ^ 32) {d : Diagnostic} (hd : d ∈ templateDiagnostics id text output) :
    (d.span ≠ Span.nowhere ∧ text.FrameOverflows d.span.stop →
      sources.drawnFrame? d.span = none) ∧
    (¬(d.span ≠ Span.nowhere ∧ text.FrameOverflows d.span.stop) →
      sources.drawnFrame? d.span = some (sources.frame? d.span)) := by
  obtain ⟨category, message, rfl⟩ : ∃ category message, d = located category id text message := by
    rw [templateDiagnostics, List.mem_append, List.mem_map, List.mem_map] at hd
    obtain ⟨message, -, rfl⟩ | ⟨message, -, rfl⟩ := hd
    · exact ⟨_, message, rfl⟩
    · exact ⟨_, message, rfl⟩
  rcases span_located category id text message with hnowhere | ⟨hid, hordered, hinside⟩
  · rw [hnowhere]
    exact ⟨fun h => absurd rfl h.1, fun _ => rfl⟩
  · have hne : (located category id text message).span ≠ Span.nowhere := fun h => by
      rw [h] at hid
      exact hfile hid.symm
    have hdrawn := SourceSet.drawnFrame?_eq (by rwa [hid]) (by rwa [hid]) fits hordered hinside
    refine ⟨fun h => ?_, fun h => ?_⟩
    · rw [hdrawn, if_pos h.2]
    · rw [hdrawn, if_neg fun hover => h ⟨hne, hover⟩]

/-- What is told never changes what is built: two builders that do the same work build the same
module or fail alike from states that are alike, whatever the collaborators complain about and
whatever is reported of it. Reporting what was complained about in reading a component never fails.
For a template that 32 bits can count, it fails if an error is reported whose frame overflows, and
not otherwise. -/
theorem same_build_of_sameWork (hblind : Blind R) (hwork : SameWork R builder builder')
    (source : String) (file : Path) :
    (∀ s t, R s t →
      (run s (builder.build source file).run).1 = (run t (builder'.build source file).run).1 ∧
        R (run s (builder.build source file).run).2 (run t (builder'.build source file).run).2) ∧
    (∀ (style : LineStyle) (policy : Policy) (errors : List Complaint),
      let sources : SourceSet := ⟨[⟨file, source⟩]⟩
      let diagnostics := errors.map (located .parserError 0 ⟨file, source⟩)
      drawnReport? style policy sources file.text diagnostics =
        some (report style policy sources file.text diagnostics)) ∧
    ∀ (style : LineStyle) (policy : Policy) (text : SourceText) (output : CompiledTemplate),
      text.length < 2 ^ 32 →
      let sources := (SourceSet.mk [⟨file, source⟩]).add text
      let diagnostics := templateDiagnostics (SourceSet.mk [⟨file, source⟩]).nextId text output
      ((∃ d ∈ admitted policy .templateError diagnostics,
          d.span ≠ Span.nowhere ∧ text.FrameOverflows d.span.stop) →
        drawnReport? style policy sources text.path.text diagnostics = none) ∧
      (¬(∃ d ∈ admitted policy .templateError diagnostics,
          d.span ≠ Span.nowhere ∧ text.FrameOverflows d.span.stop) →
        drawnReport? style policy sources text.path.text diagnostics =
          some (report style policy sources text.path.text diagnostics)) := by
  refine ⟨fun s t hst => ?_, fun style policy errors => ?_, fun style policy text output fits => ?_⟩
  · obtain ⟨hresult, hstate⟩ := (hwork.sideBySide hblind).matches_build source file s t hst
    exact ⟨hresult.eq, hstate⟩
  · exact drawnReport?_eq_report (drawable_parse policy _ _ errors)
  · intro sources diagnostics
    have hframe : ∀ d ∈ admitted policy .templateError diagnostics,
        (d.span ≠ Span.nowhere ∧ text.FrameOverflows d.span.stop →
          sources.drawnFrame? d.span = none) ∧
        (¬(d.span ≠ Span.nowhere ∧ text.FrameOverflows d.span.stop) →
          sources.drawnFrame? d.span = some (sources.frame? d.span)) := fun d hd =>
      drawnFrame?_of_template rfl (show 1 ≠ Span.noFile by decide) fits (List.mem_filter.mp hd).1
    refine ⟨?_, fun hfits => drawnReport?_eq_report fun d hd => ?_⟩
    · rintro ⟨d, hd, hover⟩
      exact drawnReport?_eq_none hd ((hframe d hd).1 hover)
    · exact (hframe d hd).2 fun hover => hfits ⟨d, hd, hover⟩

end Builder

namespace Machine

/-- Machines that are alike up to what was told on them. -/
def SameButNotices (machine machine' : Machine) : Prop :=
  { machine with notices := [] } = { machine' with notices := [] }

theorem record_sameButNotices (machine : Machine) (event : Event) :
    SameButNotices (run machine (Journal.record event)).2 machine := by
  change SameButNotices (if event.level.shownAt machine.shown then _ else machine) machine
  split <;> rfl

theorem unnoticed_record (event : Event) :
    Unnoticed SameButNotices (Journal.record event : StateM Machine Unit) := fun s t hst =>
  ⟨(record_sameButNotices s event).trans hst, hst.trans (record_sameButNotices t event).symm⟩

theorem blind_sameButNotices : Blind SameButNotices where
  readText path s t hst := by
    have h : { s with notices := [] } = { t with notices := [] } := hst
    injection h with hdisk hhere
    refine ⟨?_, hst⟩
    change s.disk.readText s.here path = t.disk.readText t.here path
    rw [hdisk, hhere]
  record := unnoticed_record

end Machine

/-- A component with a template in a file of its own: once without complaints, once with reversed
ranges and ranges past the end of the texts, a silenced category and records that go elsewhere. -/
theorem Builder.same_build_of_noisy_compiler :
    let errors : List Complaint :=
      [⟨"late", some (7, 3)⟩, ⟨"outside", some (0, 99)⟩, ⟨"nowhere", none⟩]
    let compiler (errors : List Complaint) : Compiler (StateM Machine) := {
      version := "2.7.0"
      parse _ _ := return .ok {
        descriptor := { template := some { kind := .template, src := some "a.html" } }
        errors }
      compileScript _ _ := return .ok none
      compileTemplate _ := return .ok { code := "var render", errors, tips := errors } }
    let quiet : Builder (StateM Machine) := {
      compiler := compiler [], version := ⟨"2.7.0", 2, 7, 0⟩, variant := .legacy
      deliver := Record.announce }
    let noisy : Builder (StateM Machine) := {
      compiler := compiler errors
      version := ⟨"2.7.0", 2, 7, 0⟩, variant := .legacy, style := ⟨"tag"⟩
      options := { policy := { templateTips := { enabled := false } } }
      deliver _ := Journal.error "told" }
    let text : SourceText := ⟨⟨"/a.html"⟩, "<p>é\r\n"⟩
    let sources := (SourceSet.mk [⟨⟨"/A.vue"⟩, "é\r\n"⟩]).add text
    let diagnostics := templateDiagnostics 1 text { code := "var render", errors, tips := errors }
    Blind Machine.SameButNotices ∧ SameWork Machine.SameButNotices quiet noisy ∧
      (∀ machine : Machine,
        (run machine (quiet.build "é\r\n" ⟨"/A.vue"⟩).run).1 =
          (run machine (noisy.build "é\r\n" ⟨"/A.vue"⟩).run).1) ∧
      text.length < 2 ^ 32 ∧
      drawnReport? {} {} sources "/a.html" diagnostics =
        some (report {} {} sources "/a.html" diagnostics) := by
  intro errors compiler quiet noisy text sources diagnostics
  have hwork : SameWork Machine.SameButNotices quiet noisy := {
    version := rfl
    variant := rfl
    format := rfl
    transpilerOptions := rfl
    parse _ _ := matches_pure (.ok rfl)
    compileScript _ _ := matches_pure (.ok rfl)
    compileTemplate _ := matches_pure (.ok ⟨rfl, rfl⟩)
    transpiler := rfl
    transpile := nofun
    deliver _ := ⟨Machine.unnoticed_record _, Machine.unnoticed_record _⟩ }
  have fits : text.length < 2 ^ 32 := by decide +kernel
  have hbytes : text.bytes = [60, 112, 62, 195, 169, 13, 10] := by decide +kernel
  have hover : ∀ last, ¬text.FrameOverflows last := by
    rintro last (⟨hsingle, -⟩ | ⟨-, hlength, -⟩)
    · rw [hbytes] at hsingle
      exact hsingle (by decide)
    · rw [hbytes] at hlength
      exact absurd hlength (by decide)
  obtain ⟨hsame, -, htold⟩ := Builder.same_build_of_sameWork Machine.blind_sameButNotices hwork
    "é\r\n" ⟨"/A.vue"⟩
  refine ⟨Machine.blind_sameButNotices, hwork, fun machine => (hsame machine machine rfl).1, fits,
    ?_⟩
  exact (htold {} {} text _ fits).2 fun ⟨_, _, _, hd⟩ => hover _ hd

section Longest

variable {text : SourceText} {component : SourceText} {message : String} {units : Nat}

/-- An error about a place whose frame is not drawn is not reported. -/
theorem drawnReport?_eq_none_of_error {offset : UInt32}
    (hoffset : UInt32.ofNat (text.byteOffsetOfUnits units) = offset)
    (hnone : text.drawnFrame? offset offset = none) (file : String) :
    drawnReport? {} {} ((SourceSet.mk [component]).add text) file
      (Builder.templateDiagnostics 1 text
        { code := "", errors := [⟨message, some (units, units)⟩] }) = none := by
  refine drawnReport?_eq_none (d := Builder.located .templateError 1 text
    ⟨message, some (units, units)⟩) (List.mem_filter.mpr ⟨List.mem_cons_self, rfl⟩) ?_
  have hspan : (Builder.located .templateError 1 text ⟨message, some (units, units)⟩).span =
      ⟨1, text.byteOffsetOfUnits units, text.byteOffsetOfUnits units⟩ := by
    change Span.between 1 (text.byteOffsetOfUnits units) (text.byteOffsetOfUnits units) = _
    rw [Span.between, Nat.min_self, Nat.max_self]
  have hnowhere : (Span.mk 1 (text.byteOffsetOfUnits units)
      (text.byteOffsetOfUnits units)).isNowhere = false := rfl
  have hget : ((SourceSet.mk [component]).add text).get? 1 = some text := rfl
  rw [hspan, SourceSet.drawnFrame?, hnowhere]
  simp only [Bool.false_eq_true, if_false, hget, hoffset, hnone, Option.map_none]

/-- A text whose last line starts behind what 32 bits can count. -/
def Beyond (text : SourceText) : Prop :=
  ∃ front : List Char, text.chars = front ++ ['\n'] ∧ '\n' ∉ front ∧
    Text.byteLength front = 2 ^ 32 - 1

/-- The line feed of the first line seems to stand before the text. -/
theorem Beyond.drawnFrame?_eq_none (h : Beyond text) : text.drawnFrame? 0 0 = none := by
  obtain ⟨front, hchars, hfeed, hlength⟩ := h
  have hstarts : text.lineStarts = [0, 2 ^ 32] := by
    rw [SourceText.lineStarts, hchars, SourceText.startsAfter_append_of_not_mem hfeed, hlength]
    rfl
  have hwords : text.wordStarts = [0, 0] := by
    rw [SourceText.wordStarts, hstarts]
    rfl
  have hwordLength : text.wordLength = 0 := by
    rw [SourceText.wordLength, SourceText.length, hchars, Text.byteLength_append, hlength]
    rfl
  have hrows : ∀ startLine stopLine, text.drawnRows? 0 0 startLine stopLine 0 = none := by
    intro startLine stopLine
    have hcut : text.cutLine? 0 = none := by
      rw [SourceText.cutLine?, SourceText.lineStop?, hwords]
      rfl
    rw [SourceText.drawnRows?, hcut]
    rfl
  have hplace : SourceText.search? [0, 0] 0 0 2 = some (.hit 1) := by
    rw [SourceText.search?]
    rfl
  have hsearch : text.searchedLineColumn? 0 = some (2, 1) := by
    rw [SourceText.searchedLineColumn?, hwords, hwordLength]
    change (SourceText.search? [0, 0] 0 0 2 >>= _) = _
    rw [hplace]
    rfl
  have hcount : text.lineCount = 2 := by
    rw [SourceText.lineCount, hstarts]
    rfl
  have hnone : (List.range' 0 2).mapM (text.drawnRows? 0 0 2 2) = none :=
    SourceText.mapM_eq_none_of_mem (by decide) (hrows 2 2)
  rw [SourceText.drawnFrame?, hwordLength, hcount]
  change (text.searchedLineColumn? 0 >>= _) = none
  rw [hsearch]
  change (text.searchedLineColumn? 0 >>= _) = none
  rw [hsearch]
  change ((List.range' 0 2).mapM (text.drawnRows? 0 0 2 2) >>= _) = none
  rw [hnone]
  rfl

theorem Beyond.drawnReport?_eq_none (h : Beyond text) (file : String) :
    drawnReport? {} {} ((SourceSet.mk [component]).add text) file
      (Builder.templateDiagnostics 1 text
        { code := "", errors := [⟨message, some (0, 0)⟩] }) = none := by
  refine drawnReport?_eq_none_of_error ?_ h.drawnFrame?_eq_none file
  rw [SourceText.byteOffsetOfUnits_zero]
  rfl

/-- In the longest text of one character that 32 bits can count, an error about a place whose frame
overflows is not reported. -/
theorem drawnReport?_repeated {c : Char} {count : Nat} (hsize : c.utf8Size = 1)
    (hunits : Text.charUnits c = 1) (hcount : count = 2 ^ 32 - 1) (hinside : units ≤ count)
    (hover : (SourceText.repeated count c).FrameOverflows units) (file : String) :
    (SourceText.repeated count c).length < 2 ^ 32 ∧
      drawnReport? {} {} ((SourceSet.mk [component]).add (SourceText.repeated count c)) file
        (Builder.templateDiagnostics 1 (SourceText.repeated count c)
          { code := "", errors := [⟨message, some (units, units)⟩] }) = none := by
  have hoffset : (UInt32.ofNat units).toNat = units :=
    UInt32.toNat_ofNat_of_lt' (by rw [UInt32.size]; omega)
  obtain ⟨fits, hnone⟩ := SourceText.drawnFrame?_repeated hsize hcount (hoffset.symm ▸ hover)
  refine ⟨fits, drawnReport?_eq_none_of_error ?_ hnone file⟩
  rw [SourceText.byteOffsetOfUnits, SourceText.chars, SourceText.repeated, String.toList_ofList,
    Text.byteOfUnit_replicate hsize hunits hinside]

end Longest

/-- The report of an error at the end of the longest text that 32 bits can count fails, if the text
is a single line, and that of an error in newlines from two lines before the last one. In a longer
text the report of an error at the start may fail as well. -/
theorem drawnReport?_eq_none_of_longest :
    let long : SourceText := ⟨⟨"App.vue"⟩, String.ofList (List.replicate (2 ^ 32 - 1) 'a')⟩
    let high : SourceText := ⟨⟨"App.vue"⟩, String.ofList (List.replicate (2 ^ 32 - 1) '\n')⟩
    let beyond : SourceText :=
      ⟨⟨"App.vue"⟩, String.ofList (List.replicate (2 ^ 32 - 1) 'a' ++ ['\n'])⟩
    let component : SourceSet := ⟨[⟨⟨"App.vue"⟩, ""⟩]⟩
    let output (units : Nat) : CompiledTemplate :=
      { code := "", errors := [⟨"late", some (units, units)⟩] }
    (long.length < 2 ^ 32 ∧ drawnReport? {} {} (component.add long) "App.vue"
      (Builder.templateDiagnostics 1 long (output (2 ^ 32 - 1))) = none) ∧
    (high.length < 2 ^ 32 ∧ drawnReport? {} {} (component.add high) "App.vue"
      (Builder.templateDiagnostics 1 high (output (2 ^ 32 - 3))) = none) ∧
    drawnReport? {} {} (component.add beyond) "App.vue"
      (Builder.templateDiagnostics 1 beyond (output 0)) = none := by
  intro long high beyond component output
  have hlong : (SourceText.repeated (2 ^ 32 - 1) 'a').FrameOverflows (2 ^ 32 - 1) :=
    SourceText.frameOverflows_line (by decide) rfl
  have hhigh : (SourceText.repeated (2 ^ 32 - 1) '\n').FrameOverflows (2 ^ 32 - 3) :=
    SourceText.frameOverflows_newlines rfl (by decide)
  have hbeyond : Beyond beyond :=
    ⟨_, String.toList_ofList, fun hmem => absurd (List.eq_of_mem_replicate hmem) (by decide),
      Text.byteLength_replicate_of_one (by decide) _⟩
  exact ⟨drawnReport?_repeated (by decide) (by decide) rfl (Nat.le_refl _) hlong _,
    drawnReport?_repeated (by decide) (by decide) rfl (by decide) hhigh _,
    hbeyond.drawnReport?_eq_none _⟩

end ComponentCompiler
