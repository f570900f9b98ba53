import ComponentCompiler.Proofs.Source.Lines

/-!
# Carets below the lines of a range

The rows of a frame are those of the lines that it shows, one line after the other
(`exists_frame_of_rows`). The row of a line starts with its number and a row of carets with a blank,
so the rows tell which lines are underlined (`underlines_flatMap_iff`): those between the line of
the start of the range and that of its end. The end is no part of the range, but its line is
underlined even if it starts there (`underlines_frame_iff`).
-/

namespace ComponentCompiler

open Text

namespace SourceText

section Rows

variable {number number' : Nat} {text text' row : List Char} {rows : List (List Char)}

/-- Carets below a line: blanks for a number, blanks up to a column of the line, and carets. -/
def underline (column width : Nat) : List Char :=
  "   |  ".toList ++ List.replicate column ' ' ++ List.replicate width '^'

/-- A row with one caret or more. -/
def IsUnderline (row : List Char) : Prop := ∃ column width, row = underline column (width + 1)

/-- A line of a frame has a row of carets. -/
def Underlines (rows : List (List Char)) (number : Nat) : Prop :=
  ∃ text carets, IsUnderline carets ∧ [frameLine number text, carets] <:+: rows

/-- A row of a line starts with the number of the line. -/
theorem takeWhile_frameLine (number : Nat) (text : List Char) :
    (frameLine number text).takeWhile Char.isDigit = Nat.toDigits 10 number := by
  have hdigits : ∀ c ∈ Nat.toDigits 10 number, c.isDigit := fun c hc =>
    Nat.isDigit_of_mem_toDigits (by decide) (by decide) hc
  simp only [frameLine, List.append_assoc]
  rw [List.takeWhile_append_of_pos hdigits]
  cases 3 - (Nat.toDigits 10 number).length <;> simp [List.replicate_succ]

theorem number_of_frameLine (h : frameLine number text = frameLine number' text') :
    number = number' := by
  have hdigits := congrArg (List.takeWhile Char.isDigit) h
  rw [takeWhile_frameLine, takeWhile_frameLine] at hdigits
  calc number = Nat.ofDigitChars 10 (Nat.toDigits 10 number) 0 :=
      Nat.ofDigitChars_ten_toDigits.symm
    _ = Nat.ofDigitChars 10 (Nat.toDigits 10 number') 0 := by rw [hdigits]
    _ = number' := Nat.ofDigitChars_ten_toDigits

theorem not_isUnderline_frameLine (number : Nat) (text : List Char) :
    ¬IsUnderline (frameLine number text) := by
  rintro ⟨column, width, hrow⟩
  have hdigits := takeWhile_frameLine number text
  rw [hrow] at hdigits
  exact Nat.toDigits_ne_nil hdigits.symm

theorem not_underlines_nil (number : Nat) : ¬Underlines [] number := by
  rintro ⟨text, carets, -, h⟩
  exact absurd (List.infix_nil.mp h) (List.cons_ne_nil _ _)

/-- Two rows that follow each other do so at the start or later. -/
theorem pair_infix_cons_iff {α : Type} {a b x : α} {rest : List α} :
    [a, b] <:+: x :: rest ↔ a = x ∧ rest.head? = some b ∨ [a, b] <:+: rest := by
  rw [List.infix_cons_iff, List.cons_prefix_cons]
  cases rest with
  | nil => simp
  | cons y rest => simp [@eq_comm _ b y]

theorem underlines_cons_of_isUnderline (h : IsUnderline row) :
    Underlines (row :: rows) number ↔ Underlines rows number := by
  refine exists_congr fun text => exists_congr fun carets => and_congr_right fun _ => ?_
  rw [pair_infix_cons_iff, or_iff_right]
  rintro ⟨rfl, -⟩
  exact not_isUnderline_frameLine _ _ h

theorem underlines_cons_line (h : ∀ next, rows.head? = some next → ¬IsUnderline next) :
    Underlines (frameLine number' text' :: rows) number ↔ Underlines rows number := by
  refine exists_congr fun text => exists_congr fun carets => and_congr_right fun hcarets => ?_
  rw [pair_infix_cons_iff, or_iff_right]
  rintro ⟨-, hnext⟩
  exact h _ hnext hcarets

theorem underlines_cons_cons (h : IsUnderline row) :
    Underlines (frameLine number' text' :: row :: rows) number ↔
      number = number' ∨ Underlines rows number := by
  have hrest : Underlines (row :: rows) number ↔ Underlines rows number :=
    underlines_cons_of_isUnderline h
  rw [← hrest]
  constructor
  · rintro ⟨text, carets, hcarets, hpair⟩
    rcases pair_infix_cons_iff.mp hpair with ⟨hline, -⟩ | hlater
    · exact .inl (number_of_frameLine hline)
    · exact .inr ⟨text, carets, hcarets, hlater⟩
  · rintro (rfl | ⟨text, carets, hcarets, hlater⟩)
    · exact ⟨text', row, h, pair_infix_cons_iff.mpr (.inl ⟨rfl, rfl⟩)⟩
    · exact ⟨text, carets, hcarets, pair_infix_cons_iff.mpr (.inr hlater)⟩

theorem isUnderline_caretRow (text : List Char) (lineStart start stop : Nat) :
    IsUnderline (caretRow text lineStart start stop) := by
  unfold caretRow IsUnderline underline
  extract_lets length first last column width
  have hwidth : max width 1 = width - 1 + 1 := by omega
  exact ⟨column, width - 1, by rw [hwidth]⟩

theorem IsUnderline.not_mem (h : IsUnderline row) : '\n' ∉ row := by
  obtain ⟨column, width, rfl⟩ := h
  unfold underline
  simp

theorem not_mem_frameLine (h : '\n' ∉ text) (number : Nat) : '\n' ∉ frameLine number text := by
  have hdigits : '\n' ∉ Nat.toDigits 10 number := fun hmem =>
    absurd (Nat.isDigit_of_mem_toDigits (by decide) (by decide) hmem) (by decide)
  simp [frameLine, h, hdigits]

end Rows

section Frame

variable {source : SourceText} {start stop index number lineStart : Nat} {text : List Char}
  {indices : List Nat}

/-- The lines that a frame shows, counted from zero. -/
def shown (source : SourceText) (start stop : Nat) : List Nat :=
  let first := source.line start - 1 - linesAround
  let last := min (source.line stop - 1 + linesAround) (source.lineCount - 1)
  List.range' first (last + 1 - first)

theorem lt_lineCount_of_mem_shown (h : index ∈ source.shown start stop) :
    index < source.lineCount := by
  have hcount : 0 < source.lineCount := Nat.succ_pos _
  rw [shown, List.mem_range'_1] at h
  omega

theorem mem_shown (hfirst : source.line start ≤ index + 1) (hlast : index + 1 ≤ source.line stop) :
    index ∈ source.shown start stop := by
  have hcount : source.line stop ≤ source.lineCount := source.line_le_lineCount stop
  rw [shown, List.mem_range'_1]
  omega

/-- The rows of a line in a frame. -/
def rowsOf (source : SourceText) (start stop index : Nat) : List (List Char) :=
  (source.frameRows? start stop index).getD []

theorem rowsOf_eq (htext : source.lineChars? index = some text)
    (hstart : source.lineStarts[index]? = some lineStart) :
    source.rowsOf start stop index = frameLine (index + 1) text ::
      if source.line start ≤ index + 1 ∧ index + 1 ≤ source.line stop then
        [caretRow text lineStart start stop] else [] := by
  have hrows : source.frameRows? start stop index = some (frameLine (index + 1) text ::
      if source.line start ≤ index + 1 ∧ index + 1 ≤ source.line stop then
        [caretRow text lineStart start stop] else []) := by
    rw [frameRows?, htext, hstart]
    change (if (decide (index + 1 < source.line start) ||
        decide (source.line stop < index + 1)) then
      some [frameLine (index + 1) text]
      else some [frameLine (index + 1) text, caretRow text lineStart start stop]) = _
    simp only [Bool.or_eq_true, decide_eq_true_eq]
    split <;> rename_i h
    · rw [if_neg (by omega)]
    · rw [if_pos (by omega)]
  rw [rowsOf, hrows, Option.getD_some]

/-- The rows of a line that is there: its number and text, and carets if it lies between the lines
of the two ends. -/
theorem exists_rowsOf_eq (start stop : Nat) (h : index < source.lineCount) :
    ∃ text carets, '\n' ∉ text ∧ IsUnderline carets ∧
      source.rowsOf start stop index = frameLine (index + 1) text ::
        if source.line start ≤ index + 1 ∧ index + 1 ≤ source.line stop then [carets] else [] := by
  obtain ⟨piece, lineStart, hpiece, hstart, -⟩ := source.exists_line h
  have htext : source.lineChars? index = some (dropTail (· == '\r') piece) := by
    rw [lineChars?, hpiece, Option.map_some]
  refine ⟨_, _, fun hmem => ?_, isUnderline_caretRow _ _ _ _, rowsOf_eq htext hstart⟩
  exact not_mem_of_mem_pieces (List.mem_of_getElem? hpiece)
    ((prefix_dropTail (· == '\r') piece).subset hmem)

/-- The rows of lines that are there start with the row of a line. -/
theorem exists_flatMap_rowsOf_eq (start stop : Nat) (indices : List Nat)
    (h : index < source.lineCount) :
    ∃ number text rest, (index :: indices).flatMap (source.rowsOf start stop) =
      frameLine number text :: rest := by
  obtain ⟨text, carets, -, -, hrows⟩ := exists_rowsOf_eq start stop h
  exact ⟨_, _, _, by rw [List.flatMap_cons, hrows, List.cons_append]⟩

/-- The underlined lines among those that are shown are the lines between those of the two ends. -/
theorem underlines_flatMap_iff (h : ∀ index ∈ indices, index < source.lineCount) :
    Underlines (indices.flatMap (source.rowsOf start stop)) number ↔
      ∃ index ∈ indices, index + 1 = number ∧
        source.line start ≤ number ∧ number ≤ source.line stop := by
  induction indices with
  | nil => simp [not_underlines_nil]
  | cons index indices ih =>
      have hlater := ih fun other hother => h other (List.mem_cons_of_mem index hother)
      obtain ⟨text, carets, -, hcarets, hrows⟩ :=
        exists_rowsOf_eq start stop (h index List.mem_cons_self)
      simp only [List.flatMap_cons, hrows, List.mem_cons, or_and_right, exists_or, exists_eq_left]
      by_cases hmarked : source.line start ≤ index + 1 ∧ index + 1 ≤ source.line stop
      · rw [if_pos hmarked, List.cons_append, List.singleton_append,
          underlines_cons_cons hcarets, hlater]
        refine or_congr_left ⟨?_, fun hnumber => hnumber.1.symm⟩
        rintro rfl
        exact ⟨rfl, hmarked⟩
      · have hnext : ∀ next, (indices.flatMap (source.rowsOf start stop)).head? = some next →
            ¬IsUnderline next := by
          intro next hnext
          cases indices with
          | nil => cases hnext
          | cons other indices =>
              obtain ⟨number, text, rest, hlist⟩ := exists_flatMap_rowsOf_eq start stop indices
                (h other (List.mem_cons_of_mem _ List.mem_cons_self))
              rw [hlist] at hnext
              cases hnext
              exact not_isUnderline_frameLine _ _
        rw [if_neg hmarked, List.singleton_append, underlines_cons_line hnext, hlater, or_iff_right]
        rintro ⟨rfl, hbetween⟩
        exact hmarked hbetween

/-- A frame consists of the rows of the lines that it shows. -/
theorem frame?_eq_rows (hle : start ≤ stop) (hstop : stop ≤ source.length) :
    source.frame? start stop = some (String.ofList
      (joined ['\n'] ((source.shown start stop).flatMap (source.rowsOf start stop)))) := by
  have hrows : ∀ index ∈ source.shown start stop,
      source.frameRows? start stop index = some (source.rowsOf start stop index) := by
    intro index hindex
    obtain ⟨rows, heq⟩ := Option.isSome_iff_exists.mp
      (source.isSome_frameRows? start stop (lt_lineCount_of_mem_shown hindex))
    rw [rowsOf, heq, Option.getD_some]
  simp only [frame?, Nat.min_eq_left (Nat.le_trans hle hstop), Nat.min_eq_left hstop,
    Nat.max_eq_right hle]
  change ((source.shown start stop).mapM (source.frameRows? start stop) >>= fun rows =>
    some (String.ofList (joined ['\n'] rows.flatten))) = _
  rw [mapM_eq_some_map hrows, List.flatMap_def]
  rfl

/-- The rows of a frame are found in it again. -/
theorem exists_frame_of_rows (hle : start ≤ stop) (hstop : stop ≤ source.length) :
    ∃ frame, source.frame? start stop = some frame ∧
      pieces '\n' frame.toList = (source.shown start stop).flatMap (source.rowsOf start stop) := by
  refine ⟨_, frame?_eq_rows hle hstop, ?_⟩
  rw [String.toList_ofList]
  refine pieces_joined ?_ fun row hrow => ?_
  · have hline := source.line_pos start
    have hmono := source.line_mono hle
    have hfirst : source.line start - 1 ∈ source.shown start stop :=
      mem_shown (by omega) (by omega)
    intro hnone
    obtain ⟨text, carets, -, -, hrows⟩ :=
      exists_rowsOf_eq start stop (lt_lineCount_of_mem_shown hfirst)
    rw [List.flatMap_eq_nil_iff.mp hnone _ hfirst] at hrows
    cases hrows
  · obtain ⟨index, hindex, hrow⟩ := List.mem_flatMap.mp hrow
    obtain ⟨text, carets, htext, hcarets, hrows⟩ :=
      exists_rowsOf_eq start stop (lt_lineCount_of_mem_shown hindex)
    rw [hrows, List.mem_cons] at hrow
    rcases hrow with rfl | hrow
    · exact not_mem_frameLine htext _
    · split at hrow
      · rw [List.mem_singleton.mp hrow]
        exact hcarets.not_mem
      · cases hrow

/-- The lines of a frame that have a row of carets: those of the bytes of the range, and one more if
it starts where the range ends, although no byte of the range lies on it. -/
theorem underlines_frame_iff (source : SourceText) (hlt : start < stop)
    (hstop : stop ≤ source.length) :
    ∃ frame, source.frame? start stop = some frame ∧
      (∀ number, Underlines (pieces '\n' frame.toList) number ↔
        (∃ byte, start ≤ byte ∧ byte < stop ∧ source.HoldsByte number byte) ∨
          source.BreaksAt number stop) ∧
      ∀ number, source.BreaksAt number stop →
        ¬∃ byte, start ≤ byte ∧ byte < stop ∧ source.HoldsByte number byte := by
  obtain ⟨frame, hframe, hpieces⟩ := exists_frame_of_rows (Nat.le_of_lt hlt) hstop
  refine ⟨frame, hframe, fun number => ?_, fun number hbreak => ?_⟩
  · rw [hpieces, underlines_flatMap_iff fun index => lt_lineCount_of_mem_shown,
      ← line_between_iff hlt hstop]
    constructor
    · rintro ⟨index, -, -, hbetween⟩
      exact hbetween
    · rintro ⟨hfirst, hlast⟩
      have hpos := source.line_pos start
      have hnumber : number - 1 + 1 = number := by omega
      exact ⟨number - 1, mem_shown (by omega) (by omega), hnumber, hfirst, hlast⟩
  · rintro ⟨byte, -, hbyte, hholds⟩
    obtain ⟨last, rfl⟩ := Nat.exists_eq_add_of_lt hlt
    obtain ⟨-, rfl⟩ := breaksAt_succ_iff.mp hbreak
    have hmono := source.line_mono (Nat.le_of_lt_succ hbyte)
    rw [hholds.line_eq] at hmono
    omega

/-- A range inside the second of three lines, with a character of two bytes. -/
theorem underlines_frame_iff_of_three_lines :
    let source : SourceText := ⟨⟨"App.vue"⟩, "ab\ncé\nd"⟩
    4 < 6 ∧ 6 ≤ source.length ∧
      ∃ frame, source.frame? 4 6 = some frame ∧
        (∀ number, Underlines (pieces '\n' frame.toList) number ↔
          (∃ byte, 4 ≤ byte ∧ byte < 6 ∧ source.HoldsByte number byte) ∨
            source.BreaksAt number 6) ∧
        ∀ number, source.BreaksAt number 6 →
          ¬∃ byte, 4 ≤ byte ∧ byte < 6 ∧ source.HoldsByte number byte :=
  ⟨by decide, by decide, underlines_frame_iff _ (by decide) (by decide)⟩

/-- A range of a line with its line feed: the next line is underlined, and no byte of the range
lies on it. -/
theorem underlines_line_after_range :
    let source : SourceText := ⟨⟨"App.vue"⟩, "ab\ncd"⟩
    source.frame? 0 3 = some "1  |  ab\n   |  ^^\n2  |  cd\n   |  ^" ∧
      Underlines (pieces '\n' "1  |  ab\n   |  ^^\n2  |  cd\n   |  ^".toList) 2 ∧
      ¬∃ byte, 0 ≤ byte ∧ byte < 3 ∧ source.HoldsByte 2 byte := by
  refine ⟨by decide +kernel, ⟨"cd".toList, "   |  ^".toList, ⟨0, 0, rfl⟩, ?_⟩, ?_⟩
  · exact ⟨["1  |  ab".toList, "   |  ^^".toList], [], by decide +kernel⟩
  · rintro ⟨byte, -, hbyte, hholds⟩
    have hmono := line_mono ⟨⟨"App.vue"⟩, "ab\ncd"⟩ (Nat.le_of_lt_succ hbyte)
    rw [hholds.line_eq] at hmono
    exact absurd hmono (by decide)

end Frame

end SourceText
end ComponentCompiler
