import ComponentCompiler.Proofs.Source.Lines
import ComponentCompiler.Proofs.Text.Bytes

/-!
# Lines and columns counted in bytes

The starts of lines can be read off the bytes of a text, since no other character has the byte of
the newline (`lineStarts_eq`). The line of an offset is then one more than the number of newlines in
the bytes before it, and the column one more than the number of bytes behind the last of them; a
greater offset has a greater line or the same line and a greater column (`lineColumn_lt_iff`). In
texts that 32 bits can count, a line or a column can be beyond 32 bits at the end of the longest of
them only (`Overflows`). Halving finds all others (`lineColumn_counts`).
-/

namespace ComponentCompiler

open Text

namespace SourceText

/-- The bytes of a source. -/
def bytes (source : SourceText) : List UInt8 := source.content.toUTF8.toList

/-- The offsets after each newline of some bytes that start at an offset. -/
def breaksAfter (offset : Nat) : List UInt8 → List Nat
  | [] => []
  | byte :: rest =>
    if byte = newline then (offset + 1) :: breaksAfter (offset + 1) rest
    else breaksAfter (offset + 1) rest

/-- Where the line of an offset starts: behind the last newline before the offset, or at the start
of the text. -/
structure StartsLine (source : SourceText) (start offset : Nat) : Prop where
  le : start ≤ offset
  behind : start = 0 ∨ source.bytes[start - 1]? = some newline
  last : ∀ index, start ≤ index → index < offset → source.bytes[index]? ≠ some newline

section Breaks

variable {offset start : Nat} {bytes : List UInt8}

theorem breaksAfter_append (offset : Nat) (front back : List UInt8) :
    breaksAfter offset (front ++ back) =
      breaksAfter offset front ++ breaksAfter (offset + front.length) back := by
  induction front generalizing offset with
  | nil => rfl
  | cons byte front ih =>
      have hnext : offset + 1 + front.length = offset + (byte :: front).length := by
        rw [List.length_cons]
        omega
      rw [List.cons_append, breaksAfter, breaksAfter, ih, hnext]
      split <;> rfl

theorem breaksAfter_of_not_mem (h : newline ∉ bytes) (offset : Nat) :
    breaksAfter offset bytes = [] := by
  induction bytes generalizing offset with
  | nil => rfl
  | cons byte bytes ih =>
      rw [breaksAfter, if_neg (List.ne_of_not_mem_cons h).symm]
      exact ih (List.not_mem_of_not_mem_cons h) _

theorem length_breaksAfter (offset : Nat) (bytes : List UInt8) :
    (breaksAfter offset bytes).length = bytes.count newline := by
  induction bytes generalizing offset with
  | nil => rfl
  | cons byte bytes ih =>
      rw [breaksAfter]
      split
      next h => rw [h, List.count_cons_self, List.length_cons, ih]
      next h => rw [List.count_cons_of_ne h, ih]

theorem bounds_of_mem_breaksAfter (h : start ∈ breaksAfter offset bytes) :
    offset < start ∧ start ≤ offset + bytes.length := by
  induction bytes generalizing offset with
  | nil => cases h
  | cons byte bytes ih =>
      rw [List.length_cons]
      rw [breaksAfter] at h
      split at h
      · rcases List.mem_cons.mp h with rfl | h
        · omega
        · have := ih h
          omega
      · have := ih h
        omega

/-- The breaks up to a place are those of the bytes before it. -/
theorem filter_breaksAfter {place : Nat} (h : place ≤ bytes.length) :
    (breaksAfter 0 bytes).filter (· ≤ place) = breaksAfter 0 (bytes.take place) := by
  have hbefore : ∀ start ∈ breaksAfter 0 (bytes.take place), start ≤ place := by
    intro start hmem
    have := (bounds_of_mem_breaksAfter hmem).2
    rw [List.length_take] at this
    omega
  have hafter : ∀ start ∈ breaksAfter place (bytes.drop place), ¬start ≤ place :=
    fun start hmem => Nat.not_le_of_lt (bounds_of_mem_breaksAfter hmem).1
  have hsplit : breaksAfter 0 bytes =
      breaksAfter 0 (bytes.take place) ++ breaksAfter place (bytes.drop place) := by
    have happend := breaksAfter_append 0 (bytes.take place) (bytes.drop place)
    rwa [List.take_append_drop, Nat.zero_add, List.length_take, Nat.min_eq_left h] at happend
  rw [hsplit, filter_append_of_forall hbefore hafter]

/-- Bytes end in a part without newlines that starts behind one or with the bytes. -/
theorem exists_lastLine (bytes : List UInt8) : ∃ above within, bytes = above ++ within ∧
    (above = [] ∨ ∃ front, above = front ++ [newline]) ∧ newline ∉ within := by
  induction bytes with
  | nil => exact ⟨[], [], rfl, .inl rfl, List.not_mem_nil⟩
  | cons byte bytes ih =>
      obtain ⟨above, within, rfl, rfl | ⟨front, rfl⟩, hwithin⟩ := ih
      · by_cases hbyte : byte = newline
        · exact ⟨[byte], within, rfl, .inr ⟨[], by rw [hbyte]; rfl⟩, hwithin⟩
        · refine ⟨[], byte :: within, rfl, .inl rfl, ?_⟩
          rw [List.mem_cons, not_or]
          exact ⟨Ne.symm hbyte, hwithin⟩
      · exact ⟨byte :: (front ++ [newline]), within, rfl, .inr ⟨byte :: front, rfl⟩, hwithin⟩

/-- The last break stands behind what ends in the last newline. -/
theorem getLast?_breaksAfter {above within : List UInt8}
    (habove : above = [] ∨ ∃ front, above = front ++ [newline]) (hwithin : newline ∉ within) :
    (0 :: breaksAfter 0 (above ++ within)).getLast? = some above.length := by
  rw [breaksAfter_append, breaksAfter_of_not_mem hwithin, List.append_nil]
  rcases habove with rfl | ⟨front, rfl⟩
  · rfl
  · have hbreaks : breaksAfter 0 (front ++ [newline]) =
        breaksAfter 0 front ++ [front.length + 1] := by
      rw [breaksAfter_append, Nat.zero_add]
      rfl
    rw [hbreaks, ← List.cons_append, List.getLast?_concat, List.length_append]
    rfl

end Breaks

section Bytes

variable (source : SourceText)

theorem bytes_eq : source.bytes = source.chars.flatMap String.utf8EncodeChar :=
  toList_toUTF8 source.content

theorem length_flatMap_utf8EncodeChar (s : List Char) :
    (s.flatMap String.utf8EncodeChar).length = byteLength s := by
  induction s with
  | nil => rfl
  | cons c s ih =>
      rw [List.flatMap_cons, List.length_append, String.length_utf8EncodeChar, ih, byteLength_cons]

theorem length_bytes : source.bytes.length = source.length := by
  rw [bytes_eq, length_flatMap_utf8EncodeChar, length]

theorem startsAfter_eq (offset : Nat) (s : List Char) :
    startsAfter offset s = breaksAfter offset (s.flatMap String.utf8EncodeChar) := by
  induction s generalizing offset with
  | nil => rfl
  | cons c s ih =>
      rw [startsAfter, List.flatMap_cons, breaksAfter_append, String.length_utf8EncodeChar, ← ih]
      split
      next h =>
        subst h
        rfl
      next h =>
        rw [breaksAfter_of_not_mem fun hmem => h (newline_mem_utf8EncodeChar.mp hmem)]
        rfl

theorem lineStarts_eq : source.lineStarts = 0 :: breaksAfter 0 source.bytes := by
  rw [lineStarts, startsAfter_eq, bytes_eq]

theorem lineCount_eq_count : source.lineCount = source.bytes.count newline + 1 := by
  rw [lineCount, lineStarts_eq, List.length_cons, length_breaksAfter]

/-- A line starts where the last part without newlines does. -/
theorem startsLine_length {above within rest : List UInt8} {offset : Nat}
    (hbytes : source.bytes = above ++ (within ++ rest))
    (habove : above = [] ∨ ∃ front, above = front ++ [newline]) (hwithin : newline ∉ within)
    (hoffset : above.length + within.length = offset) :
    source.StartsLine above.length offset where
  le := by omega
  behind := by
    rcases habove with rfl | ⟨front, rfl⟩
    · exact .inl rfl
    · right
      rw [hbytes, List.length_append, List.length_singleton, Nat.add_sub_cancel,
        List.append_assoc, List.getElem?_append_right (Nat.le_refl _), Nat.sub_self]
      rfl
  last := by
    intro index hfirst hlast hnewline
    rw [hbytes, List.getElem?_append_right hfirst,
      List.getElem?_append_left (by omega)] at hnewline
    exact hwithin (List.mem_of_getElem? hnewline)

/-- Line and column by the bytes before an offset. -/
theorem exists_lineColumn_eq (offset : Nat) :
    ∃ start, source.StartsLine start (min offset source.bytes.length) ∧
      source.lineColumn offset = ((source.bytes.take offset).count newline + 1,
        min offset source.bytes.length - start + 1) := by
  obtain ⟨place, hplace⟩ : ∃ place, min offset source.bytes.length = place := ⟨_, rfl⟩
  have hle : place ≤ source.bytes.length := hplace ▸ Nat.min_le_right _ _
  have htake : source.bytes.take offset = source.bytes.take place := by
    rw [← hplace, ← List.take_eq_take_min]
  obtain ⟨above, within, hsplit, habove, hwithin⟩ := exists_lastLine (source.bytes.take place)
  have hlength : above.length + within.length = place := by
    rw [← List.length_append, ← hsplit, List.length_take, Nat.min_eq_left hle]
  have hbytes : source.bytes = above ++ (within ++ source.bytes.drop place) := by
    rw [← List.append_assoc, ← hsplit, List.take_append_drop]
  have hbefore : source.lineStarts.filter (· ≤ place) = 0 :: breaksAfter 0 (above ++ within) := by
    rw [lineStarts_eq, List.filter_cons_of_pos (by simp), filter_breaksAfter hle, hsplit]
  refine ⟨above.length, ?_, ?_⟩
  · rw [hplace]
    exact source.startsLine_length hbytes habove hwithin hlength
  · simp only [lineColumn, ← source.length_bytes, hplace, hbefore,
      getLast?_breaksAfter habove hwithin, List.length_cons, length_breaksAfter, htake, hsplit,
      Option.getD_some]

/-- A line or a column is at most the number behind the last offset. -/
theorem lineColumn_le (offset : Nat) : (source.lineColumn offset).1 ≤ source.length + 1 ∧
    (source.lineColumn offset).2 ≤ source.length + 1 := by
  obtain ⟨start, -, hcounts⟩ := source.exists_lineColumn_eq offset
  have hcount : (source.bytes.take offset).count newline ≤ (source.bytes.take offset).length :=
    List.count_le_length
  rw [hcounts, ← length_bytes]
  rw [List.length_take] at hcount
  omega

/-- Of two offsets in the text the greater one has the greater line and column. -/
theorem lineColumn_lt {first last : Nat}
    (h : min first source.length < min last source.length) :
    Prod.Lex (· < ·) (· < ·) (source.lineColumn first) (source.lineColumn last) := by
  have hmono : source.line first ≤ source.line last := source.line_mono (by omega)
  rw [line, line] at hmono
  obtain ⟨-, index, start, -, -, hstart, hle, hfirst⟩ := source.exists_lineIndex?_eq first
  obtain ⟨-, index', start', -, -, hstart', hle', hlast⟩ := source.exists_lineIndex?_eq last
  rw [hfirst, hlast] at hmono ⊢
  rcases Nat.lt_or_eq_of_le (Nat.le_of_succ_le_succ hmono) with hless | rfl
  · exact .left _ _ (Nat.succ_lt_succ hless)
  · obtain rfl : start = start' := Option.some.inj (hstart.symm.trans hstart')
    exact .right _ (by omega)

theorem lineColumn_lt_iff (first last : Nat) :
    Prod.Lex (· < ·) (· < ·) (source.lineColumn first) (source.lineColumn last) ↔
      min first source.length < min last source.length := by
  refine ⟨fun h => ?_, source.lineColumn_lt⟩
  rw [Prod.lex_def] at h
  rcases Nat.lt_trichotomy (min first source.length) (min last source.length) with
    hless | hsame | hgreater
  · exact hless
  · have hequal : source.lineColumn first = source.lineColumn last := by
      simp only [lineColumn, hsame]
    rw [hequal] at h
    omega
  · have hback := source.lineColumn_lt hgreater
    rw [Prod.lex_def] at hback
    omega

/-- The line or the column of an offset is beyond 32 bits. The offset stands for the end of a text
of the greatest length that 32 bits can count, and the text is a single line or has newlines only.
-/
def Overflows (source : SourceText) (offset : Nat) : Prop :=
  min offset source.bytes.length = 2 ^ 32 - 1 ∧
    (newline ∉ source.bytes ∨ ∀ byte ∈ source.bytes, byte = newline)

instance (source : SourceText) (offset : Nat) : Decidable (source.Overflows offset) :=
  inferInstanceAs (Decidable (_ ∧ (_ ∨ _)))

variable {source}

theorem count_newline_eq_length_iff {bytes : List UInt8} :
    bytes.count newline = bytes.length ↔ ∀ byte ∈ bytes, byte = newline := by
  rw [List.count_eq_length]
  exact forall₂_congr fun _ _ => eq_comm

theorem line_overflows_iff (fits : source.length < 2 ^ 32) (offset : Nat) :
    2 ^ 32 ≤ (source.lineColumn offset).1 ↔
      min offset source.bytes.length = 2 ^ 32 - 1 ∧ ∀ byte ∈ source.bytes, byte = newline := by
  obtain ⟨start, -, hcounts⟩ := source.exists_lineColumn_eq offset
  rw [← length_bytes] at fits
  rw [hcounts]
  have hcount : (source.bytes.take offset).count newline ≤ min offset source.bytes.length :=
    List.length_take ▸ List.count_le_length
  have hall : offset ≥ source.bytes.length → ((source.bytes.take offset).count newline =
      source.bytes.length ↔ ∀ byte ∈ source.bytes, byte = newline) := by
    intro hend
    rw [List.take_of_length_le hend, count_newline_eq_length_iff]
  constructor
  · intro hline
    exact ⟨by omega, (hall (by omega)).mp (by omega)⟩
  · rintro ⟨hmin, hbytes⟩
    have := (hall (by omega)).mpr hbytes
    omega

theorem column_overflows_iff (fits : source.length < 2 ^ 32) (offset : Nat) :
    2 ^ 32 ≤ (source.lineColumn offset).2 ↔
      min offset source.bytes.length = 2 ^ 32 - 1 ∧ newline ∉ source.bytes := by
  obtain ⟨start, hstart, hcounts⟩ := source.exists_lineColumn_eq offset
  rw [← length_bytes] at fits
  rw [hcounts]
  have hle := hstart.le
  constructor
  · intro hcolumn
    have hmin : min offset source.bytes.length = 2 ^ 32 - 1 := by omega
    refine ⟨hmin, fun hmem => ?_⟩
    obtain ⟨index, hindex⟩ := List.mem_iff_getElem?.mp hmem
    have hlt : index < source.bytes.length := (List.getElem?_eq_some_iff.mp hindex).1
    exact hstart.last index (by omega) (by omega) hindex
  · rintro ⟨hmin, hnone⟩
    obtain hzero | hbehind := hstart.behind
    · omega
    · exact absurd (List.mem_of_getElem? hbehind) hnone

theorem overflows_iff (fits : source.length < 2 ^ 32) (offset : Nat) : source.Overflows offset ↔
    2 ^ 32 ≤ (source.lineColumn offset).1 ∨ 2 ^ 32 ≤ (source.lineColumn offset).2 := by
  rw [line_overflows_iff fits, column_overflows_iff fits, ← and_or_left, or_comm, Overflows]

theorem length_wordStarts (source : SourceText) :
    source.wordStarts.length = source.lineStarts.length := List.length_map _

section Words

variable (fits : source.length < 2 ^ 32)

include fits

theorem toNat_wordLength : source.wordLength.toNat = source.length :=
  UInt32.toNat_ofNat_of_lt' fits

theorem toNat_min_wordLength (offset : UInt32) :
    (min offset source.wordLength).toNat = min offset.toNat source.length := by
  rw [UInt32.toNat_min, toNat_wordLength fits]

theorem toNat_ofNat_of_mem {start : Nat} (h : start ∈ source.lineStarts) :
    (UInt32.ofNat start).toNat = start :=
  UInt32.toNat_ofNat_of_lt' (Nat.lt_of_le_of_lt (le_length_of_mem_lineStarts h) fits)

theorem map_toNat_wordStarts : source.wordStarts.map UInt32.toNat = source.lineStarts := by
  rw [wordStarts, List.map_map]
  exact (List.map_congr_left fun _ hstart => toNat_ofNat_of_mem fits hstart).trans (List.map_id _)

theorem exists_wordStarts_eq {index start : Nat} (h : source.lineStarts[index]? = some start) :
    ∃ word : UInt32, source.wordStarts[index]? = some word ∧ word.toNat = start := by
  refine ⟨UInt32.ofNat start, ?_, toNat_ofNat_of_mem fits (List.mem_of_getElem? h)⟩
  rw [wordStarts, List.getElem?_map, h, Option.map_some]

/-- Halving finds the line and the column of an offset, if they are not beyond 32 bits. -/
theorem searchedLineColumn?_eq (offset : UInt32) : source.searchedLineColumn? offset =
    if source.Overflows offset.toNat then none
    else some (UInt32.ofNat (source.lineColumn offset.toNat).1,
      UInt32.ofNat (source.lineColumn offset.toNat).2) := by
  obtain ⟨place, index, start, hplace, hindex, hstart, hle, hlineColumn⟩ :=
    source.exists_lineIndex?_eq offset.toNat
  obtain ⟨word, hword, hstart'⟩ := exists_wordStarts_eq fits hstart
  have hoffset := toNat_min_wordLength fits offset
  have hbounds := source.lineColumn_le offset.toNat
  rw [hlineColumn] at hbounds
  have halong : wordDifference? (min offset source.wordLength) word =
      some (UInt32.ofNat (min offset.toNat source.length - start)) := by
    have hword_le : word ≤ min offset source.wordLength := by
      rw [UInt32.le_iff_toNat_le, hoffset, hstart']
      exact hle
    rw [wordDifference?_of_le hword_le, ← hoffset, ← hstart',
      ← UInt32.toNat_sub_of_le _ _ hword_le, UInt32.ofNat_toNat]
  have hoverflows := overflows_iff fits offset.toNat
  rw [hlineColumn] at hoverflows
  simp only [searchedLineColumn?, map_toNat_wordStarts fits, hoffset, length_wordStarts, hplace,
    hindex, hword, halong, hlineColumn, Option.bind_eq_bind, Option.bind_some,
    wordSum?_ofNat_one (show index < 2 ^ 32 by omega),
    wordSum?_ofNat_one (show min offset.toNat source.length - start < 2 ^ 32 by omega)]
  by_cases hover : source.Overflows offset.toNat
  · rw [if_pos hover]
    rcases hoverflows.mp hover with hline | hcolumn
    · rw [if_neg (Nat.not_lt.mpr hline), Option.bind_none]
    · rw [if_neg (Nat.not_lt.mpr hcolumn)]
      split <;> rfl
  · obtain ⟨hline, hcolumn⟩ := not_or.mp (mt hoverflows.mpr hover)
    rw [if_neg hover, if_pos (Nat.not_le.mp hline), if_pos (Nat.not_le.mp hcolumn)]
    rfl

/-- A line and a column that are found are those of the offset. -/
theorem toNat_of_searchedLineColumn? {offset line column : UInt32}
    (h : source.searchedLineColumn? offset = some (line, column)) :
    ¬source.Overflows offset.toNat ∧
      source.lineColumn offset.toNat = (line.toNat, column.toNat) := by
  rw [searchedLineColumn?_eq fits] at h
  split at h
  · cases h
  · rename_i hover
    obtain ⟨hline, hcolumn⟩ := not_or.mp (mt (overflows_iff fits offset.toNat).mpr hover)
    cases h
    rw [UInt32.toNat_ofNat_of_lt' (Nat.not_le.mp hline),
      UInt32.toNat_ofNat_of_lt' (Nat.not_le.mp hcolumn)]
    exact ⟨hover, rfl⟩

end Words

/-- Lines and columns are exact, also for offsets past the end, which stand for the end, as far as
they are not beyond 32 bits: the line is one more than the number of newlines before the offset, the
column one more than the distance from the start of the line, and they grow with the offset. Looking
them up by halving finds them, and fails if one of them is beyond 32 bits. -/
theorem lineColumn_counts (source : SourceText) (fits : source.length < 2 ^ 32) :
    source.lineCount = source.bytes.count newline + 1 ∧
      (∀ offset : UInt32,
        (source.Overflows offset.toNat → source.searchedLineColumn? offset = none) ∧
        (¬source.Overflows offset.toNat → ∃ line column start,
          source.searchedLineColumn? offset = some (line, column) ∧
          source.StartsLine start (min offset.toNat source.bytes.length) ∧
          line.toNat = (source.bytes.take offset.toNat).count newline + 1 ∧
          column.toNat = min offset.toNat source.bytes.length - start + 1)) ∧
      ∀ (first last : UInt32) (place place' : UInt32 × UInt32),
        source.searchedLineColumn? first = some place →
        source.searchedLineColumn? last = some place' →
        (Prod.Lex (· < ·) (· < ·) place place' ↔
          min first.toNat source.bytes.length < min last.toNat source.bytes.length) := by
  refine ⟨source.lineCount_eq_count, fun offset => ⟨fun hover => ?_, fun hover => ?_⟩, ?_⟩
  · rw [searchedLineColumn?_eq fits, if_pos hover]
  · have hfound := searchedLineColumn?_eq fits offset
    rw [if_neg hover] at hfound
    obtain ⟨-, hexact⟩ := toNat_of_searchedLineColumn? fits hfound
    obtain ⟨start, hstart, hcounts⟩ := source.exists_lineColumn_eq offset.toNat
    obtain ⟨hline, hcolumn⟩ := Prod.mk.inj (hexact.symm.trans hcounts)
    exact ⟨_, _, start, hfound, hstart, hline, hcolumn⟩
  · rintro first last ⟨line, column⟩ ⟨line', column'⟩ hfirst hlast
    have hexact := (toNat_of_searchedLineColumn? fits hfirst).2
    have hexact' := (toNat_of_searchedLineColumn? fits hlast).2
    rw [length_bytes, ← lineColumn_lt_iff, hexact, hexact', Prod.lex_def, Prod.lex_def,
      UInt32.lt_iff_toNat_lt, UInt32.lt_iff_toNat_lt, ← UInt32.toNat_inj]

/-- An offset past the end of a text of three lines. -/
theorem lineColumn_counts_of_three_lines :
    let source : SourceText := ⟨⟨"App.vue"⟩, "a\né\nbc"⟩
    source.length < 2 ^ 32 ∧ source.lineCount = 3 ∧
      source.searchedLineColumn? 99 = some (3, 3) := by
  intro source
  have fits : source.length < 2 ^ 32 := by decide +kernel
  have hbytes : source.bytes = [97, 10, 195, 169, 10, 98, 99] := by decide +kernel
  obtain ⟨hcount, hoffsets, -⟩ := lineColumn_counts source fits
  have hover : ¬source.Overflows (99 : UInt32).toNat := by
    rw [Overflows, hbytes]
    decide
  obtain ⟨line, column, start, hfound, hstart, hline, hcolumn⟩ := (hoffsets 99).2 hover
  rw [hbytes] at hcount hline hcolumn
  -- No newline stands between the start and the end of the text, so the start is behind the second.
  have hlast : ¬start ≤ 4 := fun hle => by
    have := hstart.last 4 hle
    rw [hbytes] at this
    exact this (by decide) rfl
  have hbehind : start = 5 := by
    have hle := hstart.le
    have hbehind := hstart.behind
    rw [hbytes] at hle hbehind
    have hle' : start ≤ 7 := hle
    obtain rfl | rfl | rfl : start = 5 ∨ start = 6 ∨ start = 7 := by omega
    · rfl
    · simp [newline] at hbehind
    · simp [newline] at hbehind
  subst hbehind
  obtain rfl : line = 3 := UInt32.toNat_inj.mp hline
  obtain rfl : column = 3 := UInt32.toNat_inj.mp hcolumn
  exact ⟨fits, hcount, hfound⟩

section Longest

variable {c : Char} {count : Nat}

/-- A text of one character again and again. -/
def repeated (count : Nat) (c : Char) : SourceText :=
  ⟨⟨"App.vue"⟩, String.ofList (List.replicate count c)⟩

theorem length_repeated (hsize : c.utf8Size = 1) (count : Nat) :
    (repeated count c).length = count := by
  rw [length, chars, repeated, String.toList_ofList, byteLength_replicate_of_one hsize]

theorem mem_utf8EncodeChar_of_repeated {byte : UInt8} (h : byte ∈ (repeated count c).bytes) :
    byte ∈ String.utf8EncodeChar c := by
  rw [bytes_eq, chars, repeated, String.toList_ofList, List.mem_flatMap] at h
  obtain ⟨d, hd, hbyte⟩ := h
  rwa [List.eq_of_mem_replicate hd] at hbyte

theorem newline_not_mem_repeated (hc : c ≠ '\n') : newline ∉ (repeated count c).bytes :=
  fun h => hc (newline_mem_utf8EncodeChar.mp (mem_utf8EncodeChar_of_repeated h))

theorem eq_newline_of_repeated : ∀ byte ∈ (repeated count '\n').bytes, byte = newline :=
  fun _ h => List.mem_singleton.mp (mem_utf8EncodeChar_of_repeated h)

/-- The end of the longest text that 32 bits can count has no line and column in 32 bits, if the
text has no newline or newlines only. -/
theorem searchedLineColumn?_repeated (hsize : c.utf8Size = 1) (hcount : count = 2 ^ 32 - 1)
    (h : newline ∉ (repeated count c).bytes ∨ ∀ byte ∈ (repeated count c).bytes, byte = newline) :
    (repeated count c).length < 2 ^ 32 ∧
      (repeated count c).searchedLineColumn? (UInt32.ofNat (2 ^ 32 - 1)) = none := by
  have hlength := length_repeated hsize count
  have fits : (repeated count c).length < 2 ^ 32 := by omega
  have hover : (repeated count c).Overflows (UInt32.ofNat (2 ^ 32 - 1)).toNat := by
    refine ⟨?_, h⟩
    rw [length_bytes, hlength, hcount]
    rfl
  exact ⟨fits, by rw [searchedLineColumn?_eq fits, if_pos hover]⟩

end Longest

/-- At the end of the longest text that 32 bits can count, a single line has a column beyond 32
bits, and as many newlines have a line beyond them. -/
theorem searchedLineColumn?_eq_none_of_longest :
    let long : SourceText := ⟨⟨"App.vue"⟩, String.ofList (List.replicate (2 ^ 32 - 1) 'a')⟩
    let high : SourceText := ⟨⟨"App.vue"⟩, String.ofList (List.replicate (2 ^ 32 - 1) '\n')⟩
    let offset := UInt32.ofNat (2 ^ 32 - 1)
    (long.length < 2 ^ 32 ∧ long.searchedLineColumn? offset = none) ∧
      high.length < 2 ^ 32 ∧ high.searchedLineColumn? offset = none :=
  ⟨searchedLineColumn?_repeated (by decide) rfl (.inl (newline_not_mem_repeated (by decide))),
    searchedLineColumn?_repeated (by decide) rfl (.inr eq_newline_of_repeated)⟩

end Bytes

end SourceText
end ComponentCompiler
