import ComponentCompiler.Proofs.Source.Columns
import ComponentCompiler.Proofs.Source.Counting
import Mathlib.Data.List.Sort

/-!
# Frames drawn step by step

A frame is drawn from the starts of the lines alone: the lines of its ends are searched for, every
text is cut out between two starts, and carets are counted off in what is cut out. Each of these
steps has a way to fail. In texts that 32 bits can count, none does but at the end of the longest of
them, where a line or a column is beyond 32 bits (`FrameOverflows`); everywhere else what is drawn
is the frame (`drawnFrame?_eq`). Its rows with a number show the lines that are no more than two
lines away from the range, in order (`frame_shows_lines_near`).
-/

namespace ComponentCompiler

open Text

namespace SourceText

/-- A frame that ends at an offset needs a line or a column beyond 32 bits: the column of its end,
if the text is a single line, or the number of one of its lines, if the text has newlines only. -/
def FrameOverflows (source : SourceText) (last : Nat) : Prop :=
  (newline ∉ source.bytes ∧ last = 2 ^ 32 - 1) ∨
    ((∀ byte ∈ source.bytes, byte = newline) ∧ source.bytes.length = 2 ^ 32 - 1 ∧
      2 ^ 32 - 1 ≤ last + 2)

instance (source : SourceText) (last : Nat) : Decidable (source.FrameOverflows last) :=
  inferInstanceAs (Decidable (_ ∨ _))

namespace Line

variable {source : SourceText} (line : source.Line)

/-- The offset behind a line, with the carriage returns at its end. -/
def ending : Nat := line.start + byteLength (line.text ++ line.returns)

theorem not_mem_text_append : '\n' ∉ line.text ++ line.returns := by
  rw [List.mem_append, not_or]
  exact ⟨line.no_feed, fun hmem => absurd (line.all_returns _ hmem) (by decide)⟩

theorem chars_eq : source.chars = line.above ++ ((line.text ++ line.returns) ++ line.below) := by
  rw [line.split, List.append_assoc line.text]

/-- The starts of the lines below a line stand behind its own. -/
theorem getElem?_lineStarts_number : source.lineStarts[line.number]? =
    (startsAfter line.start ((line.text ++ line.returns) ++ line.below))[0]? := by
  have hlength : (startsAfter 0 line.above).length = newlines line.above := length_startsAfter _ _
  rw [lineStarts, number, List.getElem?_cons_succ, line.chars_eq, startsAfter_append,
    List.getElem?_append_right (Nat.le_of_eq hlength), hlength, Nat.sub_self, Nat.zero_add, start]

theorem lineStop?_eq (fits : source.length < 2 ^ 32) :
    source.lineStop? (line.number - 1) = some line.ending := by
  have hnumber : line.number - 1 + 1 = line.number := rfl
  have hstarts : source.lineStop? (line.number - 1) =
      (source.lineStarts[line.number]?).elim (some source.length) (difference? · 1) := by
    rw [lineStop?, hnumber, ← map_toNat_wordStarts fits, List.getElem?_map, Option.elim_map]
    rfl
  rw [hstarts, line.getElem?_lineStarts_number]
  rcases line.below_starts with hnone | hhead
  · have hlength : source.length = line.ending := by
      rw [length, line.chars_eq, hnone, List.append_nil, byteLength_append, ending, start]
    rw [hnone, List.append_nil, startsAfter_of_not_mem line.not_mem_text_append, ← hlength]
    rfl
  · obtain ⟨rest, hrest⟩ := List.head?_eq_some_iff.mp hhead
    rw [hrest, startsAfter_append_of_not_mem line.not_mem_text_append]
    exact difference?_of_le (Nat.le_add_left _ _)

/-- What is cut out for a line is its text. -/
theorem cutLine?_eq (fits : source.length < 2 ^ 32) :
    source.cutLine? (line.number - 1) = some line.text := by
  have hcut : betweenBytes? source.chars line.start line.ending =
      some (line.text ++ line.returns) := by
    rw [line.chars_eq]
    exact betweenBytes?_byteLength _ _ _
  have htext : dropTail (· == '\r') (line.text ++ line.returns) = line.text := by
    refine dropTail_eq_of_last (fun last hlast => ?_) fun c hc => ?_
    · have hne : last ≠ '\r' := fun heq => line.text_ends (heq ▸ hlast)
      simpa using hne
    · simpa using line.all_returns c hc
  obtain ⟨start, hstart, hword⟩ := exists_wordStarts_eq fits line.getElem?_lineStarts
  simp only [cutLine?, hstart, hword, line.lineStop?_eq fits, hcut, htext, Option.bind_eq_bind,
    Option.bind_some]
  rfl

end Line

section Steps

variable {source : SourceText} {index : Nat}

theorem drawnCaretRow?_eq {text : List Char} {lineStart : UInt32}
    (fits : lineStart.toNat + byteLength text < 2 ^ 32) (start stop : UInt32) :
    drawnCaretRow? text lineStart start stop =
      some (caretRow text lineStart.toNat start.toNat stop.toNat) := by
  have hlength : (UInt32.ofNat (byteLength text)).toNat = byteLength text :=
    UInt32.toNat_ofNat_of_lt' (Nat.lt_of_le_of_lt (Nat.le_add_left _ _) fits)
  have hsum : wordSum? lineStart (UInt32.ofNat (byteLength text)) =
      some (lineStart + UInt32.ofNat (byteLength text)) := wordSum?_of_lt (by rwa [hlength])
  have hstop := toNat_of_wordSum? hsum
  have hmax : lineStart ≤ max start lineStart := by
    rw [UInt32.le_iff_toNat_le, UInt32.toNat_max]
    exact Nat.le_max_right _ _
  have hahead := UInt32.toNat_sub_of_le _ _ hmax
  have hfirst : min (max start lineStart - lineStart).toNat (byteLength text) ≤ byteLength text :=
    Nat.min_le_right _ _
  rw [UInt32.toNat_max] at hahead
  rw [hahead] at hfirst
  rw [hlength] at hstop
  simp only [drawnCaretRow?, hsum, wordDifference?_of_le hmax, hahead, UInt32.toNat_min, hstop,
    clamp?_of_le hfirst, difference?_of_le (Nat.le_max_left _ _), Option.bind_eq_bind,
    Option.bind_some]
  rfl

/-- The rows that are drawn of a line are those that it has in the frame. -/
theorem drawnRows?_eq (fits : source.length < 2 ^ 32) {start stop startLine stopLine : UInt32}
    (hstart : startLine.toNat = source.line start.toNat)
    (hstop : stopLine.toNat = source.line stop.toNat) (h : index < source.lineCount)
    (hword : index + 1 < 2 ^ 32) : source.drawnRows? start stop startLine stopLine index =
      some (source.rowsOf start.toNat stop.toNat index) := by
  obtain ⟨line, hnumber⟩ := Line.exists_number_eq h
  obtain rfl : line.number - 1 = index := by rw [hnumber, Nat.add_sub_cancel]
  obtain ⟨lineStart, hlineStart, hlineStart'⟩ := exists_wordStarts_eq fits line.getElem?_lineStarts
  have hinside : lineStart.toNat + byteLength line.text < 2 ^ 32 := by
    rw [hlineStart']
    exact Nat.lt_of_le_of_lt line.stop_le_length fits
  have hcarets := drawnCaretRow?_eq hinside start stop
  have hline : (UInt32.ofNat (line.number - 1 + 1)).toNat = line.number - 1 + 1 :=
    UInt32.toNat_ofNat_of_lt' hword
  have hmarked : (decide (UInt32.ofNat (line.number - 1 + 1) < startLine) ||
      decide (stopLine < UInt32.ofNat (line.number - 1 + 1))) = true ↔
      ¬(source.line start.toNat ≤ line.number - 1 + 1 ∧
        line.number - 1 + 1 ≤ source.line stop.toNat) := by
    simp only [Bool.or_eq_true, decide_eq_true_eq, UInt32.lt_iff_toNat_lt, hline, hstart, hstop]
    omega
  simp only [drawnRows?, line.cutLine?_eq fits, wordSum?_ofNat_one (Nat.lt_of_succ_lt hword),
    if_pos hword, hlineStart, hcarets, hlineStart',
    rowsOf_eq line.lineChars?_eq line.getElem?_lineStarts, hmarked, ite_not, Option.bind_eq_bind,
    Option.bind_some]
  split <;> rfl

/-- A line whose number is beyond 32 bits is not drawn. -/
theorem drawnRows?_eq_none (start stop startLine stopLine : UInt32) (hindex : index = 2 ^ 32 - 1) :
    source.drawnRows? start stop startLine stopLine index = none := by
  have hnone : wordSum? (UInt32.ofNat index) 1 = none := by
    rw [wordSum?_ofNat_one (by omega), if_neg (by omega)]
  rw [drawnRows?, hnone]
  cases source.cutLine? index <;> rfl

/-- A frame starts and ends inside the source, wherever its range lies. -/
theorem frame?_clamped (source : SourceText) (start stop : Nat) :
    source.frame? start stop = source.frame? (min start source.length)
      (max (min start source.length) (min stop source.length)) := by
  have hstart : min (min start source.length) source.length = min start source.length := by omega
  have hstop : max (min start source.length)
      (min (max (min start source.length) (min stop source.length)) source.length) =
        max (min start source.length) (min stop source.length) := by omega
  simp only [frame?, hstart, hstop]

/-- In a text of newlines every byte has a line of its own. -/
theorem line_of_newlines (h : ∀ byte ∈ source.bytes, byte = newline) (offset : Nat) :
    source.line offset = min offset source.bytes.length + 1 := by
  obtain ⟨start, -, hcounts⟩ := source.exists_lineColumn_eq offset
  have hall : (source.bytes.take offset).count newline = (source.bytes.take offset).length :=
    count_newline_eq_length_iff.mpr fun byte hbyte => h byte (List.mem_of_mem_take hbyte)
  rw [line, hcounts, hall, List.length_take]

/-- The numbers of the lines that are shown are in 32 bits, if the frame does not overflow. -/
theorem succ_lt_of_mem_shown (fits : source.length < 2 ^ 32) {first last : Nat}
    (hlast : last ≤ source.length) (hover : ¬source.FrameOverflows last)
    (h : index ∈ source.shown first last) : index + 1 < 2 ^ 32 := by
  have hindex := lt_lineCount_of_mem_shown h
  rw [lineCount_eq_count] at hindex
  rw [← length_bytes] at fits hlast
  have hle : source.bytes.count newline ≤ source.bytes.length := List.count_le_length
  by_contra hnot
  have hall : ∀ byte ∈ source.bytes, byte = newline :=
    count_newline_eq_length_iff.mp (by omega)
  refine hover (.inr ⟨hall, by omega, ?_⟩)
  rw [shown, List.mem_range'_1, line_of_newlines hall last, linesAround] at h
  omega

/-- A text of newlines shows its last line, if it is not further away than others. -/
theorem mem_shown_of_newlines {first last : Nat} (hlast : last ≤ source.bytes.length)
    (h : ∀ byte ∈ source.bytes, byte = newline)
    (hnear : source.bytes.length ≤ last + 2) :
    source.bytes.length ∈ source.shown first last := by
  have hcount : source.lineCount = source.bytes.length + 1 := by
    rw [lineCount_eq_count, count_newline_eq_length_iff.mpr h]
  rw [shown, List.mem_range'_1, line_of_newlines h, line_of_newlines h, linesAround, hcount]
  omega

theorem mapM_eq_none_of_mem {α β : Type} {f : α → Option β} {x : α} {xs : List α} (hx : x ∈ xs)
    (hnone : f x = none) : xs.mapM f = none := by
  induction xs with
  | nil => cases hx
  | cons y ys ih =>
      rw [List.mapM_cons]
      rcases List.mem_cons.mp hx with rfl | hx
      · rw [hnone]
        rfl
      · rw [ih hx]
        cases f y <;> rfl

/-- An offset whose line and column are in 32 bits has its line found. -/
theorem exists_searchedLineColumn?_eq (fits : source.length < 2 ^ 32) {offset : UInt32}
    (h : ¬source.Overflows offset.toNat) : ∃ line column,
      source.searchedLineColumn? offset = some (line, column) ∧
        line.toNat = source.line offset.toNat := by
  have hfound := searchedLineColumn?_eq fits offset
  rw [if_neg h] at hfound
  exact ⟨_, _, hfound, (congrArg Prod.fst (toNat_of_searchedLineColumn? fits hfound).2).symm⟩

/-- If the lines of its ends are in 32 bits, a frame is drawn row by row. -/
theorem drawnFrame?_eq_map_rows (fits : source.length < 2 ^ 32) {start stop first last : UInt32}
    (hfirst : min start source.wordLength = first)
    (hlast : wordClamp? stop first source.wordLength = some last)
    (hstart : ¬source.Overflows first.toNat) (hstop : ¬source.Overflows last.toNat) :
    ∃ startLine stopLine : UInt32, startLine.toNat = source.line first.toNat ∧
      stopLine.toNat = source.line last.toNat ∧
      source.drawnFrame? start stop = ((source.shown first.toNat last.toNat).mapM
        (source.drawnRows? first last startLine stopLine)).map fun rows =>
          String.ofList (joined ['\n'] rows.flatten) := by
  obtain ⟨startLine, startColumn, hsearch, hline⟩ := exists_searchedLineColumn?_eq fits hstart
  obtain ⟨stopLine, stopColumn, hsearch', hline'⟩ := exists_searchedLineColumn?_eq fits hstop
  have hcount : 1 ≤ source.lineCount := Nat.succ_pos _
  refine ⟨startLine, stopLine, hline, hline', ?_⟩
  simp only [drawnFrame?, hfirst, hlast, hsearch, hsearch', hline, hline',
    difference?_of_le (source.line_pos first.toNat), difference?_of_le (source.line_pos last.toNat),
    difference?_of_le hcount, Option.bind_eq_bind, Option.bind_some, shown]
  cases (List.range' _ _).mapM (source.drawnRows? first last startLine stopLine) <;> rfl

/-- What is drawn is the frame. Drawing fails only where a line or a column is beyond 32 bits. -/
theorem drawnFrame?_eq (fits : source.length < 2 ^ 32) (start stop : UInt32) :
    source.drawnFrame? start stop =
      if source.FrameOverflows (max (min start.toNat source.length)
        (min stop.toNat source.length)) then none
      else source.frame? start.toNat stop.toNat := by
  obtain ⟨first, hfirst⟩ : ∃ first, min start source.wordLength = first := ⟨_, rfl⟩
  obtain ⟨last, hlast⟩ : ∃ last, max first (min stop source.wordLength) = last := ⟨_, rfl⟩
  have hfirst' : min start.toNat source.length = first.toNat :=
    hfirst ▸ (toNat_min_wordLength fits start).symm
  have hlast' : max first.toNat (min stop.toNat source.length) = last.toNat := by
    rw [← hlast, UInt32.toNat_max, toNat_min_wordLength fits]
  have hordered : first.toNat ≤ last.toNat := by omega
  have hinside : last.toNat ≤ source.length := by omega
  have hclamp : wordClamp? stop first source.wordLength = some last := by
    rw [wordClamp?_of_le, hlast]
    rw [UInt32.le_iff_toNat_le, toNat_wordLength fits]
    omega
  rw [hfirst', hlast']
  have hbytes := source.length_bytes
  by_cases hstop : source.Overflows last.toNat
  · have hover : source.FrameOverflows last.toNat := by
      obtain ⟨hend, hsingle | hnewlines⟩ := hstop
      · exact .inl ⟨hsingle, by omega⟩
      · exact .inr ⟨hnewlines, by omega, by omega⟩
    have hnone : source.searchedLineColumn? last = none := by
      rw [searchedLineColumn?_eq fits, if_pos hstop]
    rw [if_pos hover]
    simp only [drawnFrame?, hfirst, hclamp, hnone, Option.bind_eq_bind, Option.bind_some,
      Option.bind_none]
    cases source.searchedLineColumn? first <;> rfl
  have hstart : ¬source.Overflows first.toNat := fun h => hstop ⟨by have := h.1; omega, h.2⟩
  obtain ⟨startLine, stopLine, hline, hline', hdrawn⟩ :=
    drawnFrame?_eq_map_rows fits hfirst hclamp hstart hstop
  rw [hdrawn]
  by_cases hover : source.FrameOverflows last.toNat
  · -- The text has newlines only, and its last line is shown.
    obtain ⟨hsingle, hend⟩ | ⟨hnewlines, hlength, hnear⟩ := hover
    · exact absurd ⟨by omega, .inl hsingle⟩ hstop
    have hmem : source.bytes.length ∈ source.shown first.toNat last.toNat :=
      mem_shown_of_newlines (by omega) hnewlines (by omega)
    rw [if_pos (.inr ⟨hnewlines, hlength, hnear⟩),
      mapM_eq_none_of_mem hmem (drawnRows?_eq_none _ _ _ _ hlength), Option.map_none]
  · have hrows : (source.shown first.toNat last.toNat).mapM
        (source.drawnRows? first last startLine stopLine) =
          some ((source.shown first.toNat last.toNat).map
            (source.rowsOf first.toNat last.toNat)) :=
      mapM_eq_some_map fun index hindex => drawnRows?_eq fits hline hline'
        (lt_lineCount_of_mem_shown hindex) (succ_lt_of_mem_shown fits hinside hover hindex)
    rw [if_neg hover, hrows, Option.map_some, source.frame?_clamped start.toNat stop.toNat, hfirst',
      hlast', frame?_eq_rows hordered hinside, List.flatMap_def]

end Steps

section Rows

variable {source : SourceText} {start stop index : Nat} {row : List Char}

/-- A row of a frame that shows a line starts with its number, one of carets with a blank. -/
def showsLine (row : List Char) : Bool := row.head? != some ' '

/-- The rows of a frame that show a line. -/
def sourceRows (frame : String) : List (List Char) := (pieces '\n' frame.toList).filter showsLine

/-- The numbers of the lines no more than two lines above the line of one offset or below that of
another. -/
def linesNear (source : SourceText) (first last : Nat) : List Nat :=
  (List.range' 1 source.lineCount).filter fun number =>
    source.line first ≤ number + 2 ∧ number ≤ source.line last + 2

theorem showsLine_frameLine (number : Nat) (text : List Char) :
    showsLine (frameLine number text) := by
  cases hdigits : Nat.toDigits 10 number with
  | nil => exact absurd hdigits Nat.toDigits_ne_nil
  | cons digit digits =>
      have hdigit : digit.isDigit := Nat.isDigit_of_mem_toDigits (by decide) (by decide)
        (hdigits ▸ List.mem_cons_self)
      have hblank : digit ≠ ' ' := by
        rintro rfl
        exact absurd hdigit (by decide)
      have hhead : (frameLine number text).head? = some digit := by
        simp [frameLine, hdigits]
      simpa [showsLine, hhead] using hblank

theorem IsUnderline.showsLine_eq (h : IsUnderline row) : showsLine row = false := by
  obtain ⟨column, width, rfl⟩ := h
  rfl

/-- One of the rows of a line shows it. -/
theorem filter_rowsOf (line : source.Line) (start stop : Nat) :
    (source.rowsOf start stop (line.number - 1)).filter showsLine =
      [frameLine line.number line.text] := by
  have hcarets : showsLine (caretRow line.text line.start start stop) = false :=
    (isUnderline_caretRow _ _ _ _).showsLine_eq
  rw [rowsOf_eq line.lineChars?_eq line.getElem?_lineStarts,
    List.filter_cons_of_pos (showsLine_frameLine _ _)]
  split
  · rw [List.filter_cons_of_neg (by simp [hcarets]), List.filter_nil]
    rfl
  · rfl

theorem linesNear_eq (source : SourceText) (first last : Nat) :
    source.linesNear first last = (source.shown first last).map (· + 1) := by
  have hrange (start count : Nat) : (List.range' start count).Pairwise (· < ·) :=
    List.pairwise_lt_range'
  have hfirst := source.line_pos first
  have hlast := source.line_pos last
  have hcount : source.line last ≤ source.lineCount := source.line_le_lineCount last
  refine List.Pairwise.eq_of_mem_iff ((hrange _ _).filter _) ?_ fun number => ?_
  · rw [List.pairwise_map]
    exact (hrange _ _).imp Nat.succ_lt_succ
  · simp only [linesNear, shown, linesAround, List.mem_filter, List.mem_map, List.mem_range'_1,
      decide_eq_true_eq]
    constructor
    · rintro ⟨hnumber, hnear⟩
      exact ⟨number - 1, by omega, by omega⟩
    · rintro ⟨index, hindex, rfl⟩
      omega

/-- Each line that is shown has a text, and its row is the one that shows it. -/
theorem exists_text_of_mem_shown (start stop : Nat) {first last : Nat}
    (h : index ∈ source.shown first last) : ∃ text, source.lineText? index = some text ∧
      (source.rowsOf start stop index).filter showsLine =
        [frameLine (index + 1) text.toList] := by
  obtain ⟨line, hnumber⟩ := Line.exists_number_eq (lt_lineCount_of_mem_shown h)
  obtain rfl : line.number - 1 = index := by rw [hnumber, Nat.add_sub_cancel]
  refine ⟨String.ofList line.text, ?_, ?_⟩
  · rw [lineText?, line.lineChars?_eq, Option.map_some]
  · rw [filter_rowsOf, String.toList_ofList]
    rfl

/-- The rows that show lines, for lines that are there. -/
theorem mapM_lineText?_eq (start stop : Nat) {indices : List Nat}
    (h : ∀ index ∈ indices, ∃ text, source.lineText? index = some text ∧
      (source.rowsOf start stop index).filter showsLine =
        [frameLine (index + 1) text.toList]) :
    (indices.map (· + 1)).mapM (fun number =>
        (source.lineText? (number - 1)).map fun text => frameLine number text.toList) =
      some ((indices.flatMap (source.rowsOf start stop)).filter showsLine) := by
  induction indices with
  | nil => rfl
  | cons index indices ih =>
      obtain ⟨text, htext, hrow⟩ := h index List.mem_cons_self
      have hrest := ih fun other hother => h other (List.mem_cons_of_mem _ hother)
      rw [List.map_cons, List.mapM_cons, hrest, Nat.add_sub_cancel, htext, List.flatMap_cons,
        List.filter_append, hrow]
      rfl

/-- Every range of a text that 32 bits can count has a frame, offsets past the end, inside a
character or between the two characters of a line break and ends before the start included, but for
ranges at the end of the longest of them that need a line or a column beyond 32 bits: there drawing
fails. The rows of a frame that show a line are those of the lines from two above the line of the
start to two below that of the end, as far as there are any, in order, each with its number and its
text. -/
theorem frame_shows_lines_near (source : SourceText) (fits : source.length < 2 ^ 32)
    (start stop : UInt32) :
    let first := min start.toNat source.length
    let last := max first (min stop.toNat source.length)
    (source.FrameOverflows last → source.drawnFrame? start stop = none ∧
      ∀ (set : SourceSet) (file : Nat), set.get? file = some source → file ≠ Span.noFile →
        set.drawnFrame? ⟨file, start.toNat, stop.toNat⟩ = none) ∧
    (¬source.FrameOverflows last → ∃ frame, source.drawnFrame? start stop = some frame ∧
      (source.linesNear first last).mapM (fun number =>
        (source.lineText? (number - 1)).map fun text => frameLine number text.toList) =
          some (sourceRows frame) ∧
      ∀ (set : SourceSet) (file : Nat), set.get? file = some source → file ≠ Span.noFile →
        set.drawnFrame? ⟨file, start.toNat, stop.toNat⟩ = some (some frame)) := by
  intro first last
  have hset : ∀ (set : SourceSet) (file : Nat), set.get? file = some source →
      file ≠ Span.noFile → set.drawnFrame? ⟨file, start.toNat, stop.toNat⟩ =
        (source.drawnFrame? start stop).map some := by
    intro set file hget hfile
    have hnowhere : (Span.mk file start.toNat stop.toNat).isNowhere = false := by
      simpa [Span.isNowhere] using hfile
    simp only [SourceSet.drawnFrame?, hnowhere, hget, Bool.false_eq_true, if_false,
      UInt32.ofNat_toNat]
  have hdrawn := drawnFrame?_eq fits start stop
  refine ⟨fun hover => ?_, fun hover => ?_⟩
  · rw [if_pos hover] at hdrawn
    exact ⟨hdrawn, fun set file hget hfile => by rw [hset set file hget hfile, hdrawn]; rfl⟩
  · have hordered : first ≤ last := Nat.le_max_left _ _
    have hinside : last ≤ source.length :=
      Nat.max_le.mpr ⟨Nat.min_le_right _ _, Nat.min_le_right _ _⟩
    obtain ⟨frame, hframe, hpieces⟩ := exists_frame_of_rows hordered hinside
    rw [← source.frame?_clamped] at hframe
    rw [if_neg hover, hframe] at hdrawn
    refine ⟨frame, hdrawn, ?_, fun set file hget hfile => ?_⟩
    · rw [linesNear_eq, sourceRows, hpieces]
      exact mapM_lineText?_eq first last fun index => exists_text_of_mem_shown first last
    · rw [hset set file hget hfile, hdrawn, Option.map_some]

/-- A range that ends before its start, between the characters of a line break, and starts inside a
character. -/
theorem frame_shows_lines_near_of_reversed :
    let source : SourceText := ⟨⟨"App.vue"⟩, "a\r\nxé\r\nb"⟩
    let set : SourceSet := ⟨[source]⟩
    source.length < 2 ^ 32 ∧ ¬source.FrameOverflows 5 ∧ set.get? 0 = some source ∧
      0 ≠ Span.noFile ∧ source.linesNear 5 5 = [1, 2, 3] ∧
      ∃ frame, set.drawnFrame? ⟨0, 5, 2⟩ = some (some frame) ∧
        [1, 2, 3].mapM (fun number =>
          (source.lineText? (number - 1)).map fun text => frameLine number text.toList) =
            some (sourceRows frame) := by
  intro source set
  have hlines : source.linesNear 5 5 = [1, 2, 3] := by decide +kernel
  have hlength : source.length = 9 := by decide +kernel
  have fits : source.length < 2 ^ 32 := by omega
  have hover : ¬source.FrameOverflows 5 := by
    rintro (⟨-, hlast⟩ | ⟨-, -, hlast⟩) <;> omega
  have hshown := (frame_shows_lines_near source fits 5 2).2
  rw [hlength] at hshown
  obtain ⟨frame, -, hrows, hset⟩ := hshown hover
  have hfile : 0 ≠ Span.noFile := by decide
  refine ⟨fits, hover, rfl, hfile, hlines, frame, hset set 0 rfl hfile, ?_⟩
  rw [← hlines]
  exact hrows

/-- The longest text of one character that 32 bits can count has no frame where frames overflow. -/
theorem drawnFrame?_repeated {c : Char} {count : Nat} (hsize : c.utf8Size = 1)
    (hcount : count = 2 ^ 32 - 1) {offset : UInt32}
    (hover : (repeated count c).FrameOverflows offset.toNat) :
    (repeated count c).length < 2 ^ 32 ∧
      (repeated count c).drawnFrame? offset offset = none := by
  have hlength := length_repeated hsize count
  have fits : (repeated count c).length < 2 ^ 32 := by omega
  have hinside : min offset.toNat count = offset.toNat := by
    have := offset.toNat_lt
    omega
  refine ⟨fits, ?_⟩
  rw [drawnFrame?_eq fits, hlength, hinside, Nat.max_self, if_pos hover]

theorem frameOverflows_line {c : Char} {count : Nat} (hc : c ≠ '\n') {last : Nat}
    (hlast : last = 2 ^ 32 - 1) : (repeated count c).FrameOverflows last :=
  .inl ⟨newline_not_mem_repeated hc, hlast⟩

theorem frameOverflows_newlines {count : Nat} (hcount : count = 2 ^ 32 - 1) {last : Nat}
    (hlast : 2 ^ 32 - 1 ≤ last + 2) : (repeated count '\n').FrameOverflows last := by
  refine .inr ⟨eq_newline_of_repeated, ?_, hlast⟩
  rw [length_bytes, length_repeated (by decide), hcount]

/-- Among the longest texts that 32 bits can count, a single line has no frame at its end, and
newlines have none from two lines before the last one. -/
theorem drawnFrame?_eq_none_of_longest :
    let long : SourceText := ⟨⟨"App.vue"⟩, String.ofList (List.replicate (2 ^ 32 - 1) 'a')⟩
    let high : SourceText := ⟨⟨"App.vue"⟩, String.ofList (List.replicate (2 ^ 32 - 1) '\n')⟩
    let last := UInt32.ofNat (2 ^ 32 - 1)
    let before := UInt32.ofNat (2 ^ 32 - 3)
    (long.length < 2 ^ 32 ∧ long.drawnFrame? last last = none) ∧
      high.length < 2 ^ 32 ∧ high.drawnFrame? before before = none :=
  ⟨drawnFrame?_repeated (by decide) rfl (frameOverflows_line (by decide) rfl),
    drawnFrame?_repeated (by decide) rfl (frameOverflows_newlines rfl (by decide))⟩

end Rows

end SourceText
end ComponentCompiler
