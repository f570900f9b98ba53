import ComponentCompiler.Build.Basic
import ComponentCompiler.Proofs.Text.Offset
import Mathlib.Order.Bounds.Basic

/-!
# Ranges counted in 16-bit units

Collaborators count the 16-bit units of a text where spans count its bytes. A count of units leads
to the first character boundary with so many units before it (`reaches_byteOfUnit`,
`byteOfUnit_le`), which inside a pair is the one behind it. The units before a boundary lead back to
this boundary, so a range of whole characters keeps its characters (`units_select_characters`).
-/

namespace ComponentCompiler

namespace Text

section Units

variable {s : List Char} {units offset : Nat}

@[simp] theorem unitLength_nil : unitLength [] = 0 := rfl

@[simp] theorem unitLength_cons (c : Char) (s : List Char) :
    unitLength (c :: s) = charUnits c + unitLength s := by
  simp [unitLength]

@[simp] theorem unitLength_append (s t : List Char) :
    unitLength (s ++ t) = unitLength s + unitLength t := by
  simp [unitLength]

theorem charUnits_pos (c : Char) : 0 < charUnits c := by
  unfold charUnits
  split <;> decide

/-- A boundary of a text has so many units before it, or more. -/
def Reaches (s : List Char) (units offset : Nat) : Prop :=
  ∃ front back, s = front ++ back ∧ byteLength front = offset ∧ units ≤ unitLength front

theorem reaches_byteOfUnit (h : units ≤ unitLength s) : Reaches s units (byteOfUnit s units) := by
  induction s generalizing units with
  | nil => exact ⟨[], [], rfl, rfl, h⟩
  | cons c s ih =>
      rw [unitLength_cons] at h
      rw [byteOfUnit]
      split
      next hzero => exact ⟨[], c :: s, rfl, rfl, Nat.le_of_eq hzero⟩
      next hunits =>
        obtain ⟨front, back, rfl, hfront, hreached⟩ := @ih (units - charUnits c) (by omega)
        refine ⟨c :: front, back, rfl, by rw [byteLength_cons, hfront], ?_⟩
        rw [unitLength_cons]
        omega

theorem byteOfUnit_le (h : Reaches s units offset) : byteOfUnit s units ≤ offset := by
  obtain ⟨front, back, rfl, rfl, hreached⟩ := h
  induction front generalizing units with
  | nil =>
      obtain rfl : units = 0 := Nat.le_zero.mp hreached
      cases back <;> exact Nat.zero_le _
  | cons c front ih =>
      rw [unitLength_cons] at hreached
      rw [List.cons_append, byteOfUnit, byteLength_cons]
      split
      · exact Nat.zero_le _
      · exact Nat.add_le_add_left (ih (by omega)) _

/-- Counts that no boundary reaches lead to the end. -/
theorem byteOfUnit_of_lt (h : unitLength s < units) : byteOfUnit s units = byteLength s := by
  induction s generalizing units with
  | nil => rfl
  | cons c s ih =>
      rw [unitLength_cons] at h
      rw [byteOfUnit, if_neg (by omega), byteLength_cons, ih (by omega)]

theorem not_reaches_of_lt (h : unitLength s < units) : ¬Reaches s units offset := by
  rintro ⟨front, back, rfl, -, hreached⟩
  rw [unitLength_append] at h
  omega

/-- A greater count leads to the same boundary or a later one. -/
theorem byteOfUnit_mono (s : List Char) : Monotone (byteOfUnit s) := by
  intro units more hle
  by_cases hreached : more ≤ unitLength s
  · obtain ⟨front, back, hsplit, hfront, hunits⟩ := reaches_byteOfUnit hreached
    exact byteOfUnit_le ⟨front, back, hsplit, hfront, Nat.le_trans hle hunits⟩
  · rw [byteOfUnit_of_lt (Nat.lt_of_not_le hreached)]
    exact (boundary_byteOfUnit s units).le

/-- The units before a boundary lead to it. -/
theorem byteOfUnit_unitLength (front back : List Char) :
    byteOfUnit (front ++ back) (unitLength front) = byteLength front := by
  induction front with
  | nil => cases back <;> rfl
  | cons c front ih =>
      have hunits := charUnits_pos c
      rw [List.cons_append, byteOfUnit, unitLength_cons, if_neg (by omega), Nat.add_sub_cancel_left,
        ih, byteLength_cons]

/-- In a text of one character that is a unit and a byte, units and bytes are the same. -/
theorem byteOfUnit_replicate {c : Char} (hsize : c.utf8Size = 1) (hunits : charUnits c = 1)
    {count : Nat} (h : units ≤ count) : byteOfUnit (List.replicate count c) units = units := by
  induction count generalizing units with
  | zero => rw [Nat.le_zero.mp h]; rfl
  | succ count ih =>
      rw [List.replicate_succ, byteOfUnit]
      split
      next hzero => exact hzero.symm
      next hne =>
        rw [hsize, hunits, ih (by omega)]
        omega

end Units

end Text

open Text

namespace SourceText

theorem byteOffsetOfUnits_zero (source : SourceText) : source.byteOffsetOfUnits 0 = 0 :=
  byteOfUnit_unitLength [] source.chars

/-- Counts of 16-bit units lead to the least boundary with so many units before it, or to the end if
there is none; greater counts lead no less far; the units before a boundary lead to it; and a
complaint about some characters of a text is located at these characters. -/
theorem units_select_characters (source : SourceText) :
    (∀ units, IsLeast {offset | Reaches source.chars units offset}
        (source.byteOffsetOfUnits units) ∨
      (∀ offset, ¬Reaches source.chars units offset) ∧
        source.byteOffsetOfUnits units = source.length) ∧
    Monotone source.byteOffsetOfUnits ∧
    (∀ front back, source.chars = front ++ back →
      source.byteOffsetOfUnits (unitLength front) = byteLength front) ∧
    ∀ (category : Category) (id : Nat) (message : String) (head middle tail : List Char),
      source.chars = head ++ (middle ++ tail) →
      let range := (unitLength head, unitLength (head ++ middle))
      let span := (Builder.located category id source ⟨message, some range⟩).span
      span.file = id ∧ source.textBetween? span.start span.stop = some (String.ofList middle) := by
  refine ⟨fun units => ?_, byteOfUnit_mono _, fun front back hchars => ?_, ?_⟩
  · by_cases hreached : units ≤ unitLength source.chars
    · exact .inl ⟨reaches_byteOfUnit hreached, fun offset => byteOfUnit_le⟩
    · have hlt := Nat.lt_of_not_le hreached
      exact .inr ⟨fun offset => not_reaches_of_lt hlt, byteOfUnit_of_lt hlt⟩
  · rw [byteOffsetOfUnits, hchars, byteOfUnit_unitLength]
  · intro category id message head middle tail hchars range span
    have hfirst : source.byteOffsetOfUnits (unitLength head) = byteLength head := by
      rw [byteOffsetOfUnits, hchars, byteOfUnit_unitLength]
    have hlast : source.byteOffsetOfUnits (unitLength (head ++ middle)) =
        byteLength head + byteLength middle := by
      rw [byteOffsetOfUnits, hchars, ← List.append_assoc, byteOfUnit_unitLength, byteLength_append]
    have hspan : span = ⟨id, byteLength head, byteLength head + byteLength middle⟩ := by
      change Span.between id (source.byteOffsetOfUnits (unitLength head))
        (source.byteOffsetOfUnits (unitLength (head ++ middle))) = _
      rw [hfirst, hlast, Span.between, Nat.min_eq_left (Nat.le_add_right _ _),
        Nat.max_eq_right (Nat.le_add_right _ _)]
    refine ⟨by rw [hspan], ?_⟩
    rw [hspan, textBetween?, hchars, betweenBytes?_byteLength, Option.map_some]

/-- A character of two units and four bytes behind one of one unit and two bytes. -/
theorem units_select_characters_of_pair :
    let source : SourceText := ⟨⟨"App.vue"⟩, "é𝒱a"⟩
    source.chars = ['é'] ++ (['𝒱'] ++ ['a']) ∧
      source.byteOffsetOfUnits 1 = 2 ∧
      (IsLeast {offset | Reaches source.chars 2 offset} (source.byteOffsetOfUnits 2) ∨
        (∀ offset, ¬Reaches source.chars 2 offset) ∧
          source.byteOffsetOfUnits 2 = source.length) ∧
      source.byteOffsetOfUnits 2 = source.byteOffsetOfUnits 3 ∧
      let span := (Builder.located .parserError 0 source ⟨"unclosed", some (1, 3)⟩).span
      span.file = 0 ∧ source.textBetween? span.start span.stop = some "𝒱" := by
  intro source
  have hchars : source.chars = ['é'] ++ (['𝒱'] ++ ['a']) := by decide
  obtain ⟨hleast, -, hback, hlocated⟩ := units_select_characters source
  exact ⟨hchars, hback ['é'] _ hchars, hleast 2, by decide +kernel,
    hlocated .parserError 0 "unclosed" ['é'] ['𝒱'] ['a'] hchars⟩

end SourceText
end ComponentCompiler
