import ComponentCompiler.Proofs.Source.Carets

/-!
# The columns of carets

A range that starts within the text of a line is underlined first below this line, with one caret
for each of its characters there (`caretRow_eq`). The carets stand below the range as long as the
number of the line is no wider than the blanks that stand for it (`length_frameLine_eq_iff`).
-/

namespace ComponentCompiler

open Text

namespace SourceText

/-- A line of a source, cut out of it. Carriage returns at its end are no part of its text. -/
structure Line (source : SourceText) where
  above : List Char
  text : List Char
  returns : List Char
  below : List Char
  split : source.chars = above ++ (text ++ (returns ++ below))
  /-- Nothing stands above the line, or whole lines. -/
  above_ends : above = [] ∨ above.getLast? = some '\n'
  /-- The line is the last one, or a line feed follows. -/
  below_starts : below = [] ∨ below.head? = some '\n'
  no_feed : '\n' ∉ text
  text_ends : text.getLast? ≠ some '\r'
  all_returns : ∀ c ∈ returns, c = '\r'

namespace Line

variable {source : SourceText} (line : source.Line)

/-- The number of the line, counted from one. -/
def number : Nat := newlines line.above + 1

/-- The offset at which the line starts. -/
def start : Nat := byteLength line.above

/-- The offset behind the text of the line. -/
def stop : Nat := line.start + byteLength line.text

theorem stop_le_length : line.stop ≤ source.length := by
  rw [length, line.split, byteLength_append, byteLength_append, stop, start]
  omega

/-- What stands above a line ends at a line feed. -/
theorem above_eq : line.above = [] ∨ ∃ front, line.above = front ++ ['\n'] := by
  rcases line.above_ends with habove | hlast
  · exact .inl habove
  · obtain ⟨front, hfront⟩ := List.getLast?_eq_some_iff.mp hlast
    exact .inr ⟨front, hfront⟩

theorem lineChars?_eq : source.lineChars? (line.number - 1) = some line.text := by
  have hfeed : '\n' ∉ line.text ++ line.returns := by
    rw [List.mem_append, not_or]
    exact ⟨line.no_feed, fun hmem => absurd (line.all_returns _ hmem) (by decide)⟩
  have hfirst : (pieces '\n' (line.text ++ line.returns ++ line.below))[0]? =
      some (line.text ++ line.returns) := by
    rcases line.below_starts with hnone | hhead
    · rw [hnone, List.append_nil, pieces_of_not_mem hfeed]
      rfl
    · obtain ⟨rest, hrest⟩ := List.head?_eq_some_iff.mp hhead
      rw [hrest, pieces_append_of_not_mem hfeed]
      rfl
  have hpiece : (pieces '\n' source.chars)[newlines line.above]? =
      some (line.text ++ line.returns) := by
    rw [line.split, ← List.append_assoc line.text]
    rcases line.above_eq with hnone | ⟨front, hfront⟩
    · rw [hnone]
      exact hfirst
    · have hcount : newlines (front ++ ['\n']) = newlines front + 1 := by simp [newlines]
      rw [hfront, List.append_assoc, List.singleton_append, hcount]
      exact (getElem?_pieces_append_right front _ 0).trans hfirst
  rw [lineChars?, number, Nat.add_sub_cancel, hpiece, Option.map_some, dropTail_eq_of_last]
  · intro last hlast
    have hne : last ≠ '\r' := fun heq => line.text_ends (heq ▸ hlast)
    simpa using hne
  · intro c hc
    simpa using line.all_returns c hc

theorem getElem?_lineStarts : source.lineStarts[line.number - 1]? = some line.start := by
  rw [lineStarts, line.split, number, Nat.add_sub_cancel, start]
  rcases line.above_eq with hnone | ⟨front, hfront⟩
  · rw [hnone]
    rfl
  · have hcount : newlines (front ++ ['\n']) = (startsAfter 0 front).length + 1 := by
      rw [length_startsAfter]
      simp [newlines]
    rw [hfront, List.append_assoc, List.singleton_append, hcount, List.getElem?_cons_succ,
      startsAfter_append, List.getElem?_append_right (Nat.le_refl _), Nat.sub_self,
      byteLength_append, Nat.zero_add]
    rfl

/-- Every line of a source is one of them. -/
theorem exists_number_eq {index : Nat} (h : index < source.lineCount) :
    ∃ line : source.Line, line.number = index + 1 := by
  obtain ⟨piece, -, hpiece, -⟩ := source.exists_line h
  obtain ⟨front, back, hchars, hfront, hback, hindex, -⟩ := exists_split_of_line 0 hpiece
  obtain ⟨returns, hsplit, hreturns⟩ := dropTail_append (· == '\r') piece
  have hfeed : '\n' ∉ dropTail (· == '\r') piece := fun hmem =>
    not_mem_of_mem_pieces (List.mem_of_getElem? hpiece)
      ((prefix_dropTail (· == '\r') piece).subset hmem)
  have hends : (dropTail (· == '\r') piece).getLast? ≠ some '\r' := by
    intro hlast
    rw [← List.head?_reverse] at hlast
    obtain ⟨rest, hrest⟩ := List.head?_eq_some_iff.mp hlast
    exact absurd (last_dropTail hrest) (by decide)
  exact ⟨{
    above := front
    text := dropTail (· == '\r') piece
    returns := returns
    below := back
    split := by rw [hchars, ← List.append_assoc _ returns, ← hsplit]
    above_ends := hfront
    below_starts := hback
    no_feed := hfeed
    text_ends := hends
    all_returns := fun c hc => by simpa using hreturns c hc
  }, congrArg (· + 1) hindex⟩

/-- An offset within the text of a line has the number of the line. -/
theorem line_eq {offset : Nat} (hstart : line.start ≤ offset) (hstop : offset < line.stop) :
    source.line offset = line.number := by
  rw [stop] at hstop
  have hinside : offset - line.start < byteLength line.text := by omega
  obtain ⟨front, c, back, htext, hle, hlt⟩ := exists_char_of_lt hinside
  have hfeed : newlines front = 0 := by
    refine List.count_eq_zero.mpr fun hmem => line.no_feed ?_
    rw [htext]
    exact List.mem_append_left _ hmem
  have hlength : byteLength (line.above ++ front) = line.start + byteLength front :=
    byteLength_append _ _
  refine HoldsByte.line_eq ⟨line.above ++ front, c, back ++ (line.returns ++ line.below), ?_, ?_,
    ?_, ?_⟩
  · rw [line.split, htext]
    simp
  · omega
  · omega
  · rw [newlines, List.count_append]
    exact congrArg (newlines line.above + · + 1) hfeed

/-- The boundaries of a source within the text of a line are boundaries of the text. -/
theorem boundary {offset : Nat} (h : Boundary source.chars (line.start + offset))
    (hle : offset ≤ byteLength line.text) : Boundary line.text offset := by
  rw [line.split] at h
  exact h.of_append_right.of_append_left hle

end Line

section Columns

variable {source : SourceText} {start stop lineStart number : Nat}
  {text head middle tail : List Char}

/-- The carets below a text of which the range covers a part: one for each character. -/
theorem caretRow_eq (htext : text = head ++ (middle ++ tail)) (hmiddle : middle ≠ [])
    (hstart : lineStart + byteLength head = start)
    (hstop : lineStart + (byteLength head + byteLength middle) =
      min stop (lineStart + byteLength text)) :
    caretRow text lineStart start stop = underline head.length middle.length := by
  unfold caretRow underline
  extract_lets length first last column width
  have hlength : length = byteLength head + (byteLength middle + byteLength tail) := by
    rw [← byteLength_append, ← byteLength_append, ← htext]
  have hfirst : first = byteLength head := by
    change min (max start lineStart - lineStart) length = _
    omega
  have hlast : last = byteLength head + byteLength middle := by
    change max first (min (min stop (lineStart + byteLength text) - lineStart) length) = _
    omega
  have hcolumn : column = head.length := by
    have hcut := betweenBytes?_byteLength [] head (middle ++ tail)
    rw [List.nil_append, byteLength_nil, Nat.zero_add, ← htext, ← hfirst] at hcut
    simp only [column, hcut]
  have hwidth : width = middle.length := by
    have hcut := betweenBytes?_byteLength head middle tail
    rw [← htext, ← hlast, ← hfirst] at hcut
    simp only [width, hcut]
  have hpos : 0 < middle.length := List.length_pos_iff.mpr hmiddle
  rw [hcolumn, hwidth, Nat.max_eq_left hpos]

/-- What stands before the text in a row is as wide as in a row of carets if the number of the line
has at most three digits. -/
theorem length_frameLine_eq_iff (number : Nat) (head : List Char) :
    6 + head.length = (frameLine number head).length ↔ number < 1000 := by
  have hdigits : (Nat.toDigits 10 number).length ≤ 3 ↔ number < 1000 :=
    Nat.length_toDigits_le_iff (by decide) (by decide)
  have hlength : (frameLine number head).length =
      (Nat.toDigits 10 number).length + (3 - (Nat.toDigits 10 number).length) + 3 +
        head.length := by
    simp only [frameLine, List.length_append, List.length_replicate]
    rfl
  rw [hlength, ← hdigits]
  omega

theorem idxOf_underline (column width : Nat) :
    (underline column (width + 1)).idxOf '^' = 6 + column := by
  have hbefore : '^' ∉ "   |  ".toList ++ List.replicate column ' ' := by simp
  unfold underline
  rw [List.idxOf_append, if_neg hbefore, List.replicate_succ, List.idxOf_cons_self,
    List.length_append, List.length_replicate, Nat.zero_add]
  rfl

theorem count_underline (column width : Nat) : (underline column width).count '^' = width := by
  have hbefore : '^' ∉ "   |  ".toList ++ List.replicate column ' ' := by simp
  unfold underline
  rw [List.count_append, List.count_eq_zero.mpr hbefore, Nat.zero_add,
    List.count_replicate_self]

/-- In a frame the row of the line where the range starts is followed by its carets, and no row of
carets comes before. -/
theorem exists_rows_of_line (line : source.Line) (hstart : source.line start = line.number)
    (hle : start ≤ stop) (hstop : stop ≤ source.length) :
    ∃ frame above below, source.frame? start stop = some frame ∧
      pieces '\n' frame.toList = above ++ frameLine line.number line.text ::
        caretRow line.text line.start start stop :: below ∧
      ∀ row ∈ above, ¬IsUnderline row := by
  obtain ⟨frame, hframe, hpieces⟩ := exists_frame_of_rows hle hstop
  have hnumber : line.number - 1 + 1 = line.number := rfl
  have hlast : source.line start ≤ source.line stop := source.line_mono hle
  have hmem : line.number - 1 ∈ source.shown start stop := mem_shown (by omega) (by omega)
  obtain ⟨before, after, hshown⟩ := List.append_of_mem hmem
  have hrows : source.rowsOf start stop (line.number - 1) =
      [frameLine line.number line.text, caretRow line.text line.start start stop] := by
    rw [rowsOf_eq line.lineChars?_eq line.getElem?_lineStarts, hnumber,
      if_pos (by omega)]
  refine ⟨frame, before.flatMap (source.rowsOf start stop),
    after.flatMap (source.rowsOf start stop), hframe, ?_, fun row hrow => ?_⟩
  · rw [hpieces, hshown, List.flatMap_append, List.flatMap_cons, hrows]
    rfl
  · obtain ⟨index, hindex, hrow⟩ := List.mem_flatMap.mp hrow
    have hmem : index ∈ source.shown start stop := by
      rw [hshown]
      exact List.mem_append_left _ hindex
    -- The lines are shown in order, so this one has a smaller number and no carets.
    have hless : index < line.number - 1 := by
      have hsorted : (source.shown start stop).Pairwise (· < ·) := List.pairwise_lt_range'
      rw [hshown, List.pairwise_append] at hsorted
      exact hsorted.2.2 index hindex _ List.mem_cons_self
    obtain ⟨text, carets, -, -, hrows⟩ :=
      exists_rowsOf_eq start stop (lt_lineCount_of_mem_shown hmem)
    rw [hrows, if_neg (by omega), List.mem_singleton] at hrow
    rw [hrow]
    exact not_isUnderline_frameLine _ _

/-- A range that starts within a line covers a part of its text, up to the end of the range or of
the text. -/
theorem Line.exists_split (line : source.Line) (hstart : Boundary source.chars start)
    (hstop : Boundary source.chars stop) (hlt : start < stop) (hfirst : line.start ≤ start)
    (hinside : start < line.stop) : ∃ head middle tail,
      line.text = head ++ (middle ++ tail) ∧ middle ≠ [] ∧
        line.start + byteLength head = start ∧
        line.start + (byteLength head + byteLength middle) = min stop line.stop := by
  rw [Line.stop] at hinside ⊢
  obtain ⟨first, rfl⟩ := Nat.exists_eq_add_of_le hfirst
  obtain ⟨last, hlast⟩ :
      ∃ last, min stop (line.start + byteLength line.text) = line.start + last :=
    Nat.exists_eq_add_of_le (by omega)
  have hcut : Boundary line.text last := by
    by_cases hshort : stop ≤ line.start + byteLength line.text
    · rw [Nat.min_eq_left hshort] at hlast
      exact line.boundary (hlast ▸ hstop) (by omega)
    · rw [Nat.min_eq_right (by omega)] at hlast
      rw [← Nat.add_left_cancel hlast]
      exact boundary_byteLength _
  obtain ⟨head, middle, tail, htext, rfl, rfl⟩ :=
    (line.boundary hstart (by omega)).exists_split hcut (by omega)
  refine ⟨head, middle, tail, htext, ?_, rfl, hlast.symm⟩
  rintro rfl
  rw [byteLength_nil] at hlast
  omega

/-- Where the carets of a range stand, for a range between characters that starts within the text
of a line. The first row of carets follows the row of this line and has a caret for each character
of the range in the text; the first one stands below the first character of the range unless the
number of the line has more than three digits. -/
theorem carets_below_range (source : SourceText) (line : source.Line) {start stop : Nat}
    (hstart : Boundary source.chars start) (hstop : Boundary source.chars stop)
    (hlt : start < stop) (hfirst : line.start ≤ start) (hinside : start < line.stop) :
    ∃ frame head middle tail above carets below,
      source.frame? start stop = some frame ∧
      line.text = head ++ (middle ++ tail) ∧
      line.start + byteLength head = start ∧
      line.start + (byteLength head + byteLength middle) = min stop line.stop ∧
      pieces '\n' frame.toList =
        above ++ frameLine line.number line.text :: carets :: below ∧
      (∀ row ∈ above, ¬IsUnderline row) ∧ IsUnderline carets ∧
      carets.count '^' = middle.length ∧
      (carets.idxOf '^' = (frameLine line.number head).length ↔ line.number < 1000) := by
  obtain ⟨frame, above, below, hframe, hpieces, habove⟩ := exists_rows_of_line line
    (line.line_eq hfirst hinside) (Nat.le_of_lt hlt) hstop.le
  obtain ⟨head, middle, tail, htext, hmiddle, hhead, hlast⟩ :=
    line.exists_split hstart hstop hlt hfirst hinside
  have hcarets := caretRow_eq htext hmiddle hhead hlast
  obtain ⟨width, hwidth⟩ : ∃ width, middle.length = width + 1 :=
    Nat.exists_eq_succ_of_ne_zero (by simpa using hmiddle)
  refine ⟨frame, head, middle, tail, above, _, below, hframe, htext, hhead, hlast, hpieces, habove,
    isUnderline_caretRow _ _ _ _, ?_, ?_⟩
  · rw [hcarets, count_underline]
  · rw [hcarets, hwidth, idxOf_underline]
    exact length_frameLine_eq_iff line.number head

/-- The second line ends in a carriage return, and the range starts with a character of two
bytes. -/
theorem carets_below_range_of_two_bytes :
    let source : SourceText := ⟨⟨"App.vue"⟩, "a\r\nxéyz\r\nb"⟩
    ∃ line : source.Line, line.number = 2 ∧ line.text = "xéyz".toList ∧
      Boundary source.chars 4 ∧ Boundary source.chars 7 ∧ 4 < 7 ∧ line.start ≤ 4 ∧
      4 < line.stop ∧
      ∃ frame head middle tail above carets below,
        source.frame? 4 7 = some frame ∧
        line.text = head ++ (middle ++ tail) ∧
        line.start + byteLength head = 4 ∧
        line.start + (byteLength head + byteLength middle) = min 7 line.stop ∧
        pieces '\n' frame.toList =
          above ++ frameLine line.number line.text :: carets :: below ∧
        (∀ row ∈ above, ¬IsUnderline row) ∧ IsUnderline carets ∧
        carets.count '^' = middle.length ∧
        (carets.idxOf '^' = (frameLine line.number head).length ↔ line.number < 1000) := by
  intro source
  let line : source.Line := {
    above := "a\r\n".toList
    text := "xéyz".toList
    returns := ['\r']
    below := "\nb".toList
    split := by decide
    above_ends := .inr (by decide)
    below_starts := .inr (by decide)
    no_feed := by decide
    text_ends := by decide
    all_returns := by simp
  }
  have hstart : Boundary source.chars 4 :=
    ⟨"a\r\nx".toList, "éyz\r\nb".toList, by decide, by decide⟩
  have hstop : Boundary source.chars 7 :=
    ⟨"a\r\nxéy".toList, "z\r\nb".toList, by decide, by decide⟩
  exact ⟨line, rfl, rfl, hstart, hstop, by decide, by decide, by decide,
    carets_below_range source line hstart hstop (by decide) (by decide) (by decide)⟩

/-- The two characters of the thousandth line stand one column to the right of their carets. -/
theorem carets_beside_range :
    let source : SourceText :=
      ⟨⟨"App.vue"⟩, String.ofList (List.replicate 999 '\n' ++ "ab".toList)⟩
    ∃ frame above below, source.frame? 999 1001 = some frame ∧
      pieces '\n' frame.toList = above ++ "1000|  ab".toList :: "   |  ^^".toList :: below ∧
      (∀ row ∈ above, ¬IsUnderline row) ∧
      "1000|  ab".toList.idxOf 'a' = 7 ∧ "   |  ^^".toList.idxOf '^' = 6 := by
  intro source
  let line : source.Line := {
    above := List.replicate 999 '\n'
    text := "ab".toList
    returns := []
    below := []
    split := String.toList_ofList
    above_ends := .inr (List.getLast?_replicate.trans (if_neg (by decide)))
    below_starts := .inl rfl
    no_feed := by decide
    text_ends := by decide
    all_returns := by simp
  }
  have hnumber : line.number = 1000 := by
    rw [Line.number, newlines, List.count_replicate_self]
  have hstart : line.start = 999 := byteLength_replicate 999 '\n'
  have hstop : line.stop = 1001 := by
    rw [Line.stop, hstart]
    rfl
  have hline : source.line 999 = line.number :=
    line.line_eq (Nat.le_of_eq hstart) (by rw [hstop]; decide)
  obtain ⟨frame, above, below, hframe, hpieces, habove⟩ :=
    exists_rows_of_line line hline (by decide) (hstop ▸ line.stop_le_length)
  have hrow : frameLine 1000 line.text = "1000|  ab".toList := by decide +kernel
  have hcarets : caretRow line.text 999 999 1001 = "   |  ^^".toList := by decide +kernel
  rw [hnumber, hstart, hrow, hcarets] at hpieces
  exact ⟨frame, above, below, hframe, hpieces, habove, by decide, by decide⟩

end Columns

end SourceText
end ComponentCompiler
