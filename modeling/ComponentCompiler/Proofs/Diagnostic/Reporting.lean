import ComponentCompiler.Build.Basic
import ComponentCompiler.Proofs.Source.Drawing
import ComponentCompiler.Proofs.Source.Units

/-!
# What is reported of diagnostics

The records of a file are those of its categories, one after the other, and of a category there are
records of the messages that the policy admits only (`records_eq`). What they are is said by `Told`:
nothing if there is no such message, else a header and the messages in the order in which they came.
So nothing is lost or told twice, and a message that is not admitted leaves no trace
(`records_of_admitted`).

Frames are drawn of the template errors that the policy admits, and of no other diagnostics. If none
of them fails to be drawn, what is drawn is the report (`drawnReport?_eq_report`), and if one of
them does, there is none (`drawnReport?_eq_none`). A place between two offsets of a text that 32
bits can count has its frame drawn unless the frame overflows (`SourceSet.drawnFrame?_eq`).
-/

namespace ComponentCompiler

variable {style : LineStyle} {policy : Policy} {sources : SourceSet} {file : String}
  {category : Category} {diagnostics allowed : List Diagnostic}

section Delivery

variable {m : Type → Type} [Monad m]

/-- The record that is delivered, if one is. -/
def Reported.record? : Reported → Option Record
  | .record told => some told
  | .silenced _ => none

theorem records_eq_filterMap : records style policy sources file diagnostics =
    (report style policy sources file diagnostics).filterMap Reported.record? := rfl

/-- Each of them is handed on once, and the records are counted. -/
theorem handOn_eq_forM [LawfulMonad m] (deliver : Record → m Unit) (silence : Category → m Unit)
    (reported : List Reported) : handOn deliver silence reported = do
      reported.forM fun
        | .record record => deliver record
        | .silenced category => silence category
      return (reported.filterMap Reported.record?).length := by
  induction reported with
  | nil => simp [handOn]
  | cons entry rest ih =>
      cases entry with
      | record record => simp [handOn, ih, Reported.record?]
      | silenced category =>
          have hnone : Reported.record? (.silenced category) = none := rfl
          simp [handOn, ih, hnone]

/-- A builder hands on what is reported, and makes nothing of the number of records. -/
theorem Builder.deliverAll_eq_forM [Journal m] [LawfulMonad m] (builder : Builder m)
    (sources : SourceSet) (file : Path) (diagnostics : List Diagnostic) :
    builder.deliverAll sources file diagnostics =
      (report builder.style builder.options.policy sources file.text diagnostics).forM fun
        | .record record => builder.deliver record
        | .silenced category =>
          Journal.debug "diagnostics output is disabled"
            [fileField file, ("category", category.name)] := by
  rw [Builder.deliverAll, handOn_eq_forM]
  simp

end Delivery

section Records

/-- The messages of a category that are reported, in the order in which they came. -/
def admitted (policy : Policy) (category : Category) (diagnostics : List Diagnostic) :
    List Diagnostic :=
  diagnostics.filter fun d => d.category == category && policy.admits d

/-- What the code frame adds to a message whose place is known. -/
def belowMessage (sources : SourceSet) (d : Diagnostic) : String :=
  match sources.frame? d.span with
  | some frame => "\n\n" ++ LineStyle.indented frame
  | none => ""

/-- What is told of some messages of a category. -/
inductive Told (style : LineStyle) (sources : SourceSet) (file : String) :
    Category → List Diagnostic → List Record → Prop
  /-- No message, no record. -/
  | nothing (category : Category) : Told style sources file category [] []
  /-- A header, and a record for each message. -/
  | apart {category : Category} (hcategory : category ≠ .templateError)
      {messages : List Diagnostic} (hsome : messages ≠ []) :
      Told style sources file category messages
        (⟨.header, category, file,
            "[" ++ style.tag ++ "] " ++ category.heading ++ " in file: " ++ file⟩ ::
          messages.map fun d =>
            ⟨.detail, category, file,
              "[" ++ style.tag ++ ": " ++ category.tag ++ "] " ++ d.message⟩)
  /-- A header, and one record for all messages, each above its frame. -/
  | together {messages : List Diagnostic} (hsome : messages ≠ []) :
      Told style sources file .templateError messages
        [⟨.header, .templateError, file,
            "[" ++ style.tag ++ "] " ++ "compiler errors" ++ " in file: " ++ file⟩,
          ⟨.detail, .templateError, file,
            "[" ++ style.tag ++ ": " ++ "compiler errors" ++ "]\n\n" ++
              String.intercalate "\n\n"
                (messages.map fun d => "  " ++ d.message ++ belowMessage sources d) ++ "\n"⟩]

theorem entry_eq (sources : SourceSet) (d : Diagnostic) :
    LineStyle.entry sources d = "  " ++ d.message ++ belowMessage sources d := by
  unfold LineStyle.entry LineStyle.above belowMessage
  cases sources.frame? d.span <;> simp [String.append_assoc]

/-- The group of a category tells its messages. -/
theorem told_groupRecords (h : ∀ d ∈ allowed, d.category = category) :
    Told style sources file category allowed
      (groupRecords style sources file category allowed) := by
  by_cases hnone : allowed = []
  · rw [hnone]
    exact .nothing category
  · have hempty : allowed.isEmpty = false := by simpa using hnone
    have hlines : allowed.map style.line = allowed.map fun d =>
        "[" ++ style.tag ++ ": " ++ category.tag ++ "] " ++ d.message :=
      List.map_congr_left fun d hd => by rw [LineStyle.line, h d hd]
    have hentries : allowed.map (LineStyle.entry sources) =
        allowed.map fun d => "  " ++ d.message ++ belowMessage sources d :=
      List.map_congr_left fun d _ => entry_eq sources d
    rw [groupRecords, hempty, if_neg Bool.false_ne_true]
    cases category with
    | templateError =>
        rw [LineStyle.details, LineStyle.block, LineStyle.together, hentries]
        exact .together hnone
    | parserError =>
        rw [LineStyle.details, hlines, headed, List.map_map]
        exact .apart (by decide) hnone
    | templateTip =>
        rw [LineStyle.details, hlines, headed, List.map_map]
        exact .apart (by decide) hnone

theorem filter_category_filter_admits (policy : Policy) (category : Category)
    (diagnostics : List Diagnostic) :
    (diagnostics.filter fun d => d.category == category).filter policy.admits =
      admitted policy category diagnostics := by
  rw [List.filter_filter, admitted]
  exact List.filter_congr fun d _ => Bool.and_comm _ _

/-- The records of a file are those of what is admitted in each category, in their order. -/
theorem records_eq : records style policy sources file diagnostics =
    Category.all.flatMap fun category =>
      groupRecords style sources file category (admitted policy category diagnostics) := by
  rw [records_eq_filterMap, report, List.filterMap_flatMap]
  congr 1
  funext category
  have hadmitted := filter_category_filter_admits policy category diagnostics
  dsimp only [reportCategory]
  split
  · rename_i hnone
    rw [List.isEmpty_iff.mp hnone] at hadmitted
    rw [← hadmitted]
    rfl
  · split
    · rename_i hoff
      have hnone : admitted policy category diagnostics = [] := by
        refine List.filter_eq_nil_iff.mpr fun d _ hd => ?_
        simp only [Policy.admits, Bool.and_eq_true, beq_iff_eq] at hd
        rw [← hd.1, hd.2.1] at hoff
        cases hoff
      rw [hnone]
      rfl
    · rw [hadmitted, List.filterMap_map]
      exact List.filterMap_some

/-- Keeps the records that are delivered. -/
def keep (record : Record) : StateM (List Record) Unit := modify (· ++ [record])

theorem run_handOn_keep (reported : List Reported) (kept : List Record) :
    (handOn keep (fun _ => pure ()) reported).run kept =
      ((reported.filterMap Reported.record?).length,
        kept ++ reported.filterMap Reported.record?) := by
  induction reported generalizing kept with
  | nil =>
      rw [List.filterMap_nil, List.append_nil]
      rfl
  | cons entry rest ih =>
      cases entry with
      | record record =>
          have hsome : Reported.record? (.record record) = some record := rfl
          rw [List.filterMap_cons_some hsome, List.append_cons]
          simp only [handOn, StateT.run_bind, ih]
          rfl
      | silenced category =>
          have hnone : Reported.record? (.silenced category) = none := rfl
          rw [List.filterMap_cons_none hnone]
          exact ih kept

/-- Taking away what is not admitted leaves what is. -/
theorem admitted_filter (policy : Policy) (category : Category) (diagnostics : List Diagnostic) :
    admitted policy category (diagnostics.filter policy.admits) =
      admitted policy category diagnostics := by
  rw [admitted, admitted, List.filter_filter]
  exact List.filter_congr fun d _ => by rw [Bool.and_assoc, Bool.and_self]

theorem told_admitted (policy : Policy) (category : Category) (diagnostics : List Diagnostic) :
    Told style sources file category (admitted policy category diagnostics)
      (groupRecords style sources file category (admitted policy category diagnostics)) :=
  told_groupRecords fun d hd => by
    have hkept := (List.mem_filter.mp hd).2
    rw [Bool.and_eq_true, beq_iff_eq] at hkept
    exact hkept.1

end Records

section Drawn

/-- All frames that a report needs are drawn. -/
def Drawable (policy : Policy) (sources : SourceSet) (diagnostics : List Diagnostic) : Prop :=
  ∀ d ∈ admitted policy .templateError diagnostics,
    sources.drawnFrame? d.span = some (sources.frame? d.span)

theorem drawnDetails?_eq (h : category = .templateError →
      ∀ d ∈ allowed, sources.drawnFrame? d.span = some (sources.frame? d.span)) :
    style.drawnDetails? sources category allowed =
      some (style.details sources category allowed) := by
  cases category with
  | templateError =>
      have hentries : allowed.mapM (LineStyle.drawnMessage? sources) =
          some (allowed.map (LineStyle.entry sources)) :=
        SourceText.mapM_eq_some_map fun d hd => by
          rw [LineStyle.drawnMessage?, h rfl d hd, Option.map_some, LineStyle.entry]
      rw [LineStyle.drawnDetails?, hentries]
      rfl
  | parserError => rfl
  | templateTip => rfl

theorem drawnCategory?_eq (h : Drawable policy sources diagnostics) (category : Category) :
    drawnCategory? style policy sources file diagnostics category =
      some (reportCategory style policy sources file diagnostics category) := by
  have hdetails : style.drawnDetails? sources category (admitted policy category diagnostics) =
      some (style.details sources category (admitted policy category diagnostics)) :=
    drawnDetails?_eq fun hcategory => hcategory ▸ h
  dsimp only [drawnCategory?, reportCategory, drawnGroup?, groupRecords]
  rw [filter_category_filter_admits, hdetails]
  split
  · rfl
  · split
    · rfl
    · split <;> rfl

/-- What is drawn is the report. -/
theorem drawnReport?_eq_report (h : Drawable policy sources diagnostics) :
    drawnReport? style policy sources file diagnostics =
      some (report style policy sources file diagnostics) := by
  rw [drawnReport?, SourceText.mapM_eq_some_map fun category _ => drawnCategory?_eq h category,
    report, List.flatMap_def]
  rfl

/-- A frame that cannot be drawn leaves no report. -/
theorem drawnReport?_eq_none {d : Diagnostic}
    (hadmitted : d ∈ admitted policy .templateError diagnostics)
    (hnone : sources.drawnFrame? d.span = none) :
    drawnReport? style policy sources file diagnostics = none := by
  have hentry : LineStyle.drawnMessage? sources d = none := by
    rw [LineStyle.drawnMessage?, hnone, Option.map_none]
  have hdetails : style.drawnDetails? sources .templateError
      (admitted policy .templateError diagnostics) = none := by
    rw [LineStyle.drawnDetails?, SourceText.mapM_eq_none_of_mem hadmitted hentry]
    rfl
  have hcategory : drawnCategory? style policy sources file diagnostics .templateError = none := by
    obtain ⟨hmem, hkept⟩ := List.mem_filter.mp hadmitted
    obtain ⟨hcategory, hadmits⟩ := Bool.and_eq_true_iff.mp hkept
    have hpresent : (diagnostics.filter fun d => d.category == .templateError).isEmpty = false :=
      List.isEmpty_eq_false_iff.mpr (List.ne_nil_of_mem (List.mem_filter.mpr ⟨hmem, hcategory⟩))
    have henabled : (policy.category .templateError).enabled = true := by
      rw [Policy.admits, Bool.and_eq_true, beq_iff_eq.mp hcategory] at hadmits
      exact hadmits.1
    have hsome : (admitted policy .templateError diagnostics).isEmpty = false :=
      List.isEmpty_eq_false_iff.mpr (List.ne_nil_of_mem hadmitted)
    dsimp only [drawnCategory?, drawnGroup?]
    rw [filter_category_filter_admits, hdetails, hpresent, henabled, hsome]
    rfl
  rw [drawnReport?, SourceText.mapM_eq_none_of_mem (by decide) hcategory]
  rfl

end Drawn

section Frames

variable {set : SourceSet} {source : SourceText} {span : Span}

/-- The frame of a place between two offsets of a text is drawn, unless it overflows. -/
theorem SourceSet.drawnFrame?_eq (hget : set.get? span.file = some source)
    (hfile : span.file ≠ Span.noFile) (fits : source.length < 2 ^ 32)
    (hordered : span.start ≤ span.stop) (hinside : span.stop ≤ source.length) :
    set.drawnFrame? span =
      if source.FrameOverflows span.stop then none else some (set.frame? span) := by
  have hnowhere : span.isNowhere = false := by simpa [Span.isNowhere] using hfile
  have hstart : (UInt32.ofNat span.start).toNat = span.start :=
    UInt32.toNat_ofNat_of_lt' (by rw [UInt32.size]; omega)
  have hstop : (UInt32.ofNat span.stop).toNat = span.stop :=
    UInt32.toNat_ofNat_of_lt' (by rw [UInt32.size]; omega)
  have hlast : max (min span.start source.length) (min span.stop source.length) = span.stop := by
    omega
  simp only [drawnFrame?, frame?, hnowhere, hget, Bool.false_eq_true, if_false,
    SourceText.drawnFrame?_eq fits, hstart, hstop, hlast, Option.bind_eq_bind, Option.bind_some]
  obtain ⟨frame, hframe⟩ :=
    Option.isSome_iff_exists.mp (source.isSome_frame? span.start span.stop)
  rw [hframe]
  split <;> rfl

/-- The place of a complaint is in order and inside of its text, if it is known. -/
theorem Builder.span_located (category : Category) (id : Nat) (source : SourceText)
    (message : Complaint) :
    (Builder.located category id source message).span = Span.nowhere ∨
      (Builder.located category id source message).span.file = id ∧
        (Builder.located category id source message).span.start ≤
          (Builder.located category id source message).span.stop ∧
        (Builder.located category id source message).span.stop ≤ source.length := by
  have hinside (units : Nat) : source.byteOffsetOfUnits units ≤ source.length :=
    (Text.boundary_byteOfUnit source.chars units).le
  cases hrange : message.range with
  | none =>
      left
      rw [Builder.located, hrange]
  | some range =>
      right
      rw [Builder.located, hrange]
      exact ⟨rfl, min_le_max, Nat.max_le.mpr ⟨hinside range.1, hinside range.2⟩⟩

end Frames

end ComponentCompiler
