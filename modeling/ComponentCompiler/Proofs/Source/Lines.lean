import ComponentCompiler.Proofs.Source.Frame

/-!
# The lines of offsets

The line of an offset is the number of lines that start at the offset or before it. What that
number means is said by the characters: a byte lies on a line if there are as many line feeds before
its character (`HoldsByte`), a line feed being the last character of its line. From one offset to
the next the line stays or grows by one (`line_succ`), so that a range of offsets meets every line
from that of its start to that of its end.

The starts of the lines stand in order, so the line of an offset can be found by halving the places
that are left for it. The search ends at a start that is the offset or at the place between two
starts where the offset belongs, and there the line is the one before. No step of it fails: no place
is outside the starts and no difference is below zero (`exists_lineIndex?_eq`).
-/

namespace ComponentCompiler

open Text

namespace SourceText

section Starts

variable {s : List Char} {offset start : Nat}

/-- A line other than the first one starts after a line feed. -/
theorem exists_of_mem_startsAfter (h : start ∈ startsAfter offset s) :
    ∃ front back, s = front ++ '\n' :: back ∧ start = offset + byteLength front + 1 := by
  induction s generalizing offset with
  | nil => cases h
  | cons c s ih =>
      rw [startsAfter] at h
      by_cases hc : c = '\n'
      · subst hc
        rw [if_pos rfl, List.mem_cons] at h
        rcases h with rfl | h
        · exact ⟨[], s, rfl, rfl⟩
        · obtain ⟨front, back, rfl, rfl⟩ := ih h
          refine ⟨'\n' :: front, back, rfl, ?_⟩
          rw [byteLength_cons, Nat.add_assoc offset]
      · rw [if_neg hc] at h
        obtain ⟨front, back, rfl, rfl⟩ := ih h
        refine ⟨c :: front, back, rfl, ?_⟩
        rw [byteLength_cons, Nat.add_assoc offset]

theorem lt_of_mem_startsAfter (h : start ∈ startsAfter offset s) : offset < start := by
  obtain ⟨front, back, -, rfl⟩ := exists_of_mem_startsAfter h
  omega

theorem le_of_mem_startsAfter (h : start ∈ startsAfter offset s) :
    start ≤ offset + byteLength s := by
  obtain ⟨front, back, rfl, rfl⟩ := exists_of_mem_startsAfter h
  rw [byteLength_append, byteLength_cons]
  have hone : '\n'.utf8Size = 1 := by decide
  omega

theorem nodup_startsAfter (offset : Nat) (s : List Char) : (startsAfter offset s).Nodup := by
  induction s generalizing offset with
  | nil => exact List.nodup_nil
  | cons c s ih =>
      rw [startsAfter]
      split
      · refine List.nodup_cons.mpr ⟨fun h => ?_, ih _⟩
        exact absurd (lt_of_mem_startsAfter h) (Nat.lt_irrefl _)
      · exact ih _

end Starts

variable {source : SourceText} {number offset byte start last : Nat}

theorem nodup_lineStarts (source : SourceText) : source.lineStarts.Nodup :=
  List.nodup_cons.mpr
    ⟨fun h => absurd (lt_of_mem_startsAfter h) (Nat.lt_irrefl _), nodup_startsAfter _ _⟩

theorem le_length_of_mem_lineStarts (h : start ∈ source.lineStarts) : start ≤ source.length := by
  rcases List.mem_cons.mp h with rfl | h
  · exact Nat.zero_le _
  · rw [length, ← Nat.zero_add (byteLength _)]
    exact le_of_mem_startsAfter h

/-- The line of an offset. -/
def line (source : SourceText) (offset : Nat) : Nat := (source.lineColumn offset).1

theorem line_eq_countP (source : SourceText) (offset : Nat) :
    source.line offset = source.lineStarts.countP (· ≤ min offset source.length) := by
  rw [List.countP_eq_length_filter]
  rfl

theorem line_pos (source : SourceText) (offset : Nat) : 0 < source.line offset := by
  rw [line_eq_countP, List.countP_pos_iff]
  exact ⟨0, List.mem_cons_self, by simp⟩

/-- How many of different numbers are not above a bound, and not above the next one. -/
theorem countP_le_succ {starts : List Nat} (h : starts.Nodup) (bound : Nat) :
    starts.countP (· ≤ bound + 1) =
      starts.countP (· ≤ bound) + if bound + 1 ∈ starts then 1 else 0 := by
  induction starts with
  | nil => rfl
  | cons start starts ih =>
      obtain ⟨hstart, hnodup⟩ := List.nodup_cons.mp h
      rw [List.countP_cons, List.countP_cons, ih hnodup]
      grind

/-- At the next offset a new line starts, or the line stays. -/
theorem line_succ (source : SourceText) (offset : Nat) : source.line (offset + 1) =
    source.line offset + if offset + 1 ∈ source.lineStarts then 1 else 0 := by
  rw [line_eq_countP, line_eq_countP]
  by_cases hoffset : offset < source.length
  · rw [Nat.min_eq_left hoffset, Nat.min_eq_left (Nat.le_of_lt hoffset)]
    exact countP_le_succ source.nodup_lineStarts offset
  · have hend : offset + 1 ∉ source.lineStarts := fun h => by
      have := le_length_of_mem_lineStarts h
      omega
    rw [if_neg hend, Nat.min_eq_right (by omega), Nat.min_eq_right (by omega)]
    rfl

theorem line_mono (source : SourceText) {first last : Nat} (h : first ≤ last) :
    source.line first ≤ source.line last := by
  induction h with
  | refl => exact Nat.le_refl _
  | step _ ih =>
      refine Nat.le_trans ih ?_
      rw [line_succ]
      exact Nat.le_add_right _ _

/-- Between two offsets every line is met that lies between their lines. -/
theorem exists_line_eq_iff (h : start ≤ last) :
    (∃ byte, start ≤ byte ∧ byte ≤ last ∧ source.line byte = number) ↔
      source.line start ≤ number ∧ number ≤ source.line last := by
  constructor
  · rintro ⟨byte, hstart, hlast, rfl⟩
    exact ⟨source.line_mono hstart, source.line_mono hlast⟩
  · rintro ⟨hstart, hlast⟩
    induction h with
    | refl => exact ⟨start, Nat.le_refl _, Nat.le_refl _, Nat.le_antisymm hstart hlast⟩
    | @step last hle ih =>
        by_cases hbefore : number ≤ source.line last
        · obtain ⟨byte, hbyte, hbyte', hline⟩ := ih hbefore
          exact ⟨byte, hbyte, Nat.le_succ_of_le hbyte', hline⟩
        · refine ⟨last + 1, Nat.le_succ_of_le hle, Nat.le_refl _, ?_⟩
          rw [line_succ] at hlast ⊢
          by_cases hmem : last + 1 ∈ source.lineStarts
          · rw [if_pos hmem] at hlast ⊢
            omega
          · rw [if_neg hmem] at hlast
            omega

/-- Where a line starts after a line feed. -/
def BreaksAt (source : SourceText) (number offset : Nat) : Prop :=
  ∃ front back, source.chars = front ++ '\n' :: back ∧ byteLength front + 1 = offset ∧
    newlines front + 2 = number

/-- A byte of the text is one of a character of the line. A line feed ends its line. -/
def HoldsByte (source : SourceText) (number byte : Nat) : Prop :=
  ∃ front c back, source.chars = front ++ c :: back ∧
    byteLength front ≤ byte ∧ byte < byteLength front + c.utf8Size ∧ newlines front + 1 = number

theorem HoldsByte.lt_length (h : source.HoldsByte number byte) : byte < source.length := by
  obtain ⟨front, c, back, hchars, -, hlt, -⟩ := h
  rw [length, hchars, byteLength_append, byteLength_cons]
  omega

/-- Before a byte as many lines start as there are line feeds before its character. -/
theorem HoldsByte.line_eq (h : source.HoldsByte number byte) : source.line byte = number := by
  have hlength := h.lt_length
  obtain ⟨front, c, back, hchars, hle, hlt, rfl⟩ := h
  have hbefore : ∀ start ∈ startsAfter 0 front, start ≤ byte := fun start hstart => by
    have := le_of_mem_startsAfter hstart
    omega
  have hafter : ∀ start ∈ startsAfter (0 + byteLength front) (c :: back), ¬start ≤ byte := by
    intro start hstart
    rw [startsAfter] at hstart
    split at hstart
    · rcases List.mem_cons.mp hstart with rfl | hstart
      · omega
      · have := lt_of_mem_startsAfter hstart
        omega
    · have := lt_of_mem_startsAfter hstart
      omega
  have hcount : (startsAfter 0 front).countP (· ≤ byte) = newlines front := by
    rw [List.countP_eq_length.mpr (by simpa using hbefore), length_startsAfter]
  have hnone : (startsAfter (0 + byteLength front) (c :: back)).countP (· ≤ byte) = 0 :=
    List.countP_eq_zero.mpr (by simpa using hafter)
  rw [line_eq_countP, Nat.min_eq_left (Nat.le_of_lt hlength), lineStarts, hchars,
    startsAfter_append, List.countP_cons, List.countP_append, hcount, hnone]
  simp

theorem exists_char_of_lt {s : List Char} (h : byte < byteLength s) : ∃ front c back,
    s = front ++ c :: back ∧ byteLength front ≤ byte ∧ byte < byteLength front + c.utf8Size := by
  induction s generalizing byte with
  | nil => exact absurd h (Nat.not_lt_zero _)
  | cons c s ih =>
      by_cases hfirst : byte < c.utf8Size
      · exact ⟨[], c, s, rfl, Nat.zero_le _, by simpa using hfirst⟩
      · rw [byteLength_cons] at h
        obtain ⟨front, d, back, rfl, hle, hlt⟩ := @ih (byte - c.utf8Size) (by omega)
        refine ⟨c :: front, d, back, rfl, ?_, ?_⟩ <;> rw [byteLength_cons] <;> omega

theorem exists_holdsByte (h : byte < source.length) : ∃ number, source.HoldsByte number byte := by
  obtain ⟨front, c, back, hchars, hle, hlt⟩ := exists_char_of_lt h
  exact ⟨_, front, c, back, hchars, hle, hlt, rfl⟩

theorem holdsByte_iff (h : byte < source.length) :
    source.HoldsByte number byte ↔ source.line byte = number := by
  refine ⟨HoldsByte.line_eq, ?_⟩
  rintro rfl
  obtain ⟨number, hnumber⟩ := exists_holdsByte h
  rwa [hnumber.line_eq]

theorem exists_holdsByte_iff (hle : start ≤ last) (hlast : last < source.length) :
    (∃ byte, start ≤ byte ∧ byte ≤ last ∧ source.HoldsByte number byte) ↔
      source.line start ≤ number ∧ number ≤ source.line last := by
  rw [← exists_line_eq_iff hle]
  refine exists_congr fun byte => and_congr_right fun _ => and_congr_right fun hbyte => ?_
  exact holdsByte_iff (Nat.lt_of_le_of_lt hbyte hlast)

/-- A line that starts at an offset is the line of the offset, one after that of its line feed. -/
theorem breaksAt_succ_iff : source.BreaksAt number (last + 1) ↔
    last + 1 ∈ source.lineStarts ∧ number = source.line last + 1 := by
  have hfeed {front back : List Char} (hchars : source.chars = front ++ '\n' :: back)
      (hlast : byteLength front = last) : source.line last = newlines front + 1 := by
    refine HoldsByte.line_eq ⟨front, '\n', back, hchars, Nat.le_of_eq hlast, ?_, rfl⟩
    rw [hlast]
    exact Nat.lt_add_of_pos_right (Char.utf8Size_pos _)
  constructor
  · rintro ⟨front, back, hchars, hlast, rfl⟩
    refine ⟨List.mem_cons_of_mem _ ?_, ?_⟩
    · rw [hchars, startsAfter_append, ← hlast, Nat.zero_add]
      exact List.mem_append_right _ List.mem_cons_self
    · rw [hfeed hchars (Nat.succ.inj hlast)]
  · rintro ⟨hmem, rfl⟩
    rcases List.mem_cons.mp hmem with hzero | hmem
    · exact absurd hzero (Nat.succ_ne_zero _)
    · obtain ⟨front, back, hchars, hlast⟩ := exists_of_mem_startsAfter hmem
      rw [Nat.zero_add] at hlast
      exact ⟨front, back, hchars, hlast.symm, by rw [hfeed hchars (Nat.succ.inj hlast).symm]⟩

/-- The lines between those of two offsets are the lines of the bytes between the offsets, and one
more if it starts at the second one. -/
theorem line_between_iff {stop : Nat} (hlt : start < stop) (hstop : stop ≤ source.length) :
    source.line start ≤ number ∧ number ≤ source.line stop ↔
      (∃ byte, start ≤ byte ∧ byte < stop ∧ source.HoldsByte number byte) ∨
        source.BreaksAt number stop := by
  cases stop with
  | zero => exact absurd hlt (Nat.not_lt_zero _)
  | succ last =>
      have hle : start ≤ last := Nat.le_of_lt_succ hlt
      simp only [Nat.lt_succ_iff, exists_holdsByte_iff hle hstop, breaksAt_succ_iff, line_succ]
      have := source.line_mono hle
      split <;> rename_i hmem <;> simp only [hmem, true_and, false_and, or_false] <;> omega

/-! ### Lines found by halving -/

namespace Place

/-- How many places there are up to the end of a search, with the one that is hit. -/
def count : Place → Nat
  | hit index => index + 1
  | miss index => index

theorem lineIndex?_eq : ∀ place : Place, place.lineIndex? = difference? place.count 1
  | hit index => (difference?_of_le (Nat.le_add_left 1 index)).symm
  | miss _ => rfl

end Place

section Search

variable {starts : List Nat} {offset low high middle start count : Nat}

/-- Just so many starts are not above an offset, and they stand first. -/
def UpTo (starts : List Nat) (offset count : Nat) : Prop :=
  count ≤ starts.length ∧
    ∀ index start, starts[index]? = some start → (start ≤ offset ↔ index < count)

/-- The places that are left to search: the starts before them are less than the offset, those
behind them greater. -/
structure Narrowed (starts : List Nat) (offset low high : Nat) : Prop where
  ordered : low ≤ high
  inside : high ≤ starts.length
  before : ∀ index start, starts[index]? = some start → index < low → start < offset
  behind : ∀ index start, starts[index]? = some start → high ≤ index → offset < start

theorem filter_append_of_forall {front back : List Nat} (hfront : ∀ start ∈ front, start ≤ offset)
    (hback : ∀ start ∈ back, ¬start ≤ offset) :
    (front ++ back).filter (· ≤ offset) = front := by
  rw [List.filter_append, List.filter_eq_self.mpr (by simpa using hfront),
    List.filter_eq_nil_iff.mpr (by simpa using hback), List.append_nil]

theorem UpTo.filter_eq (h : UpTo starts offset count) :
    starts.filter (· ≤ offset) = starts.take count := by
  have hbefore : ∀ start ∈ starts.take count, start ≤ offset := by
    intro start hmem
    obtain ⟨index, hindex⟩ := List.mem_iff_getElem?.mp hmem
    rw [List.getElem?_take] at hindex
    split at hindex
    · exact (h.2 index start hindex).mpr ‹_›
    · cases hindex
  have hafter : ∀ start ∈ starts.drop count, ¬start ≤ offset := by
    intro start hmem
    obtain ⟨index, hindex⟩ := List.mem_iff_getElem?.mp hmem
    rw [List.getElem?_drop] at hindex
    exact fun hle => absurd ((h.2 _ start hindex).mp hle) (by omega)
  calc starts.filter (· ≤ offset)
      = (starts.take count ++ starts.drop count).filter (· ≤ offset) := by
        rw [List.take_append_drop]
    _ = starts.take count := filter_append_of_forall hbefore hafter

theorem lt_of_getElem? (sorted : starts.Pairwise (· < ·)) {index other later : Nat}
    (hstart : starts[index]? = some start) (hlater : starts[other]? = some later)
    (hlt : index < other) : start < later := by
  obtain ⟨hindex, rfl⟩ := List.getElem?_eq_some_iff.mp hstart
  obtain ⟨hother, rfl⟩ := List.getElem?_eq_some_iff.mp hlater
  exact List.pairwise_iff_getElem.mp sorted index other hindex hother hlt

/-- Starts in order that stand before the place of a start are less, those after it greater. -/
theorem upTo_of_getElem? (sorted : starts.Pairwise (· < ·)) {index : Nat}
    (h : starts[index]? = some offset) : UpTo starts offset (index + 1) := by
  refine ⟨(List.getElem?_eq_some_iff.mp h).1, fun other start hother => ?_⟩
  rcases Nat.lt_trichotomy other index with hless | rfl | hgreater
  · have := lt_of_getElem? sorted hother h hless
    omega
  · have := Option.some.inj (hother.symm.trans h)
    omega
  · have := lt_of_getElem? sorted h hother hgreater
    omega

namespace Narrowed

/-- Before the search all places are left. -/
theorem all (starts : List Nat) (offset : Nat) : Narrowed starts offset 0 starts.length where
  ordered := Nat.zero_le _
  inside := Nat.le_refl _
  before := fun _ _ _ hlt => absurd hlt (Nat.not_lt_zero _)
  behind := fun _ _ hstart hge =>
    absurd (List.getElem?_eq_some_iff.mp hstart).1 (Nat.not_lt_of_le hge)

/-- A start in the middle that is less leaves the places behind it. -/
theorem upper (narrowed : Narrowed starts offset low high) (sorted : starts.Pairwise (· < ·))
    (hmiddle : starts[middle]? = some start) (hless : start < offset) (hlt : middle < high) :
    Narrowed starts offset (middle + 1) high where
  ordered := hlt
  inside := narrowed.inside
  before := by
    intro index other hother hbefore
    rcases Nat.lt_or_eq_of_le (Nat.le_of_lt_succ hbefore) with hbelow | rfl
    · exact Nat.lt_trans (lt_of_getElem? sorted hother hmiddle hbelow) hless
    · obtain rfl := Option.some.inj (hother.symm.trans hmiddle)
      exact hless
  behind := narrowed.behind

/-- A start in the middle that is greater leaves the places before it. -/
theorem lower (narrowed : Narrowed starts offset low high) (sorted : starts.Pairwise (· < ·))
    (hmiddle : starts[middle]? = some start) (hgreater : offset < start) (hle : low ≤ middle) :
    Narrowed starts offset low middle where
  ordered := hle
  inside := Nat.le_of_lt (List.getElem?_eq_some_iff.mp hmiddle).1
  before := narrowed.before
  behind := by
    intro index other hother hbehind
    rcases Nat.lt_or_eq_of_le hbehind with habove | rfl
    · exact Nat.lt_trans hgreater (lt_of_getElem? sorted hmiddle hother habove)
    · obtain rfl := Option.some.inj (hother.symm.trans hmiddle)
      exact hgreater

theorem upTo (narrowed : Narrowed starts offset low low) : UpTo starts offset low := by
  refine ⟨narrowed.inside, fun index start hstart => ⟨fun hle => ?_, fun hlt => ?_⟩⟩
  · exact Nat.lt_of_not_le fun hge =>
      absurd (narrowed.behind index start hstart hge) (Nat.not_lt_of_le hle)
  · exact Nat.le_of_lt (narrowed.before index start hstart hlt)

end Narrowed

/-- A search ends next to the last start that is not above the offset. -/
theorem exists_search?_eq (sorted : starts.Pairwise (· < ·))
    (narrowed : Narrowed starts offset low high) :
    ∃ place, search? starts offset low high = some place ∧ UpTo starts offset place.count := by
  fun_induction search? starts offset low high with
  | case1 low high hlt middle hnone =>
      have hinside := narrowed.inside
      rw [List.getElem?_eq_none_iff] at hnone
      omega
  | case2 low high hlt middle hmiddle => exact ⟨_, rfl, upTo_of_getElem? sorted hmiddle⟩
  | case3 low high hlt middle start hmiddle hne hless ih =>
      exact ih (narrowed.upper sorted hmiddle hless (by omega))
  | case4 low high hlt middle start hmiddle hne hnotLess ih =>
      exact ih (narrowed.lower sorted hmiddle (by omega) (Nat.le_add_right _ _))
  | case5 low high hdone =>
      obtain rfl : low = high := Nat.le_antisymm narrowed.ordered (Nat.le_of_not_lt hdone)
      exact ⟨.miss low, rfl, narrowed.upTo⟩

end Search

theorem pairwise_startsAfter (offset : Nat) (s : List Char) :
    (startsAfter offset s).Pairwise (· < ·) := by
  induction s generalizing offset with
  | nil => exact .nil
  | cons c s ih =>
      rw [startsAfter]
      split
      · exact .cons (fun start hstart => lt_of_mem_startsAfter hstart) (ih _)
      · exact ih _

/-- The lines of a source start one after the other. -/
theorem pairwise_lineStarts (source : SourceText) : source.lineStarts.Pairwise (· < ·) :=
  .cons (fun _ hstart => lt_of_mem_startsAfter hstart) (pairwise_startsAfter _ _)

theorem lineColumn_of_upTo {source : SourceText} {offset index start : Nat}
    (hupTo : UpTo source.lineStarts (min offset source.length) (index + 1))
    (hstart : source.lineStarts[index]? = some start) :
    source.lineColumn offset = (index + 1, min offset source.length - start + 1) := by
  have hlength : (source.lineStarts.take (index + 1)).length = index + 1 := by
    rw [List.length_take, Nat.min_eq_left hupTo.1]
  have hlast : (source.lineStarts.take (index + 1)).getLast? = some start := by
    rw [List.getLast?_eq_getElem?, hlength, Nat.add_sub_cancel,
      List.getElem?_take_of_lt (Nat.lt_succ_self _), hstart]
  simp only [lineColumn, hupTo.filter_eq, hlength, hlast, Option.getD_some]

/-- A search among all lines ends on the line of the offset. -/
theorem exists_lineIndex?_eq (source : SourceText) (offset : Nat) : ∃ place index start,
    search? source.lineStarts (min offset source.length) 0 source.lineStarts.length = some place ∧
      place.lineIndex? = some index ∧ source.lineStarts[index]? = some start ∧
      start ≤ min offset source.length ∧
      source.lineColumn offset = (index + 1, min offset source.length - start + 1) := by
  obtain ⟨place, hplace, hupTo⟩ := exists_search?_eq source.pairwise_lineStarts
    (Narrowed.all source.lineStarts (min offset source.length))
  -- The first line starts at the start of the text, so a search never ends in front of it.
  have hpos : 0 < place.count := (hupTo.2 0 0 rfl).mp (Nat.zero_le _)
  obtain ⟨index, hcount⟩ := Nat.exists_eq_add_one.mpr hpos
  have hindex : place.lineIndex? = some index := by
    rw [place.lineIndex?_eq, hcount, difference?_of_le (Nat.le_add_left _ _), Nat.add_sub_cancel]
  rw [hcount] at hupTo
  obtain ⟨start, hstart⟩ : ∃ start, source.lineStarts[index]? = some start :=
    ⟨_, List.getElem?_eq_getElem hupTo.1⟩
  have hle : start ≤ min offset source.length :=
    (hupTo.2 index start hstart).mpr (Nat.lt_succ_self _)
  exact ⟨place, index, start, hplace, hindex, hstart, hle, lineColumn_of_upTo hupTo hstart⟩

end SourceText
end ComponentCompiler
