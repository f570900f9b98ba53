import ComponentCompiler.Json.Record
import ComponentCompiler.Proofs.Decimal.Readback
import ComponentCompiler.Proofs.Json.Reading
import ComponentCompiler.Proofs.Json.Reread

/-!
# Numbers keep their values

A number in its normal form is written so that the same number is read (`numberFor?_floatChars`).
Whatever is read from a document has its numbers in this form (`isNormal_of_parse?`).
-/

namespace ComponentCompiler.Json

open Decimal Binary64

variable {shape : Shape} {x : Binary64}

section Written

/-- The decimal that a number tells has its value. -/
theorem Numeral.Tells.value {n : Numeral} {negative : Bool} {d : Decimal.Numeral}
    (h : n.Tells negative d) : (naturalOf (n.whole ++ n.fraction) *
      10 ^ (n.power.getD 0 - n.fraction.length) : ℚ) = d.value := by
  obtain ⟨count, hdigits, hpower⟩ := h.zeros
  rw [hdigits, hpower, Decimal.Numeral.value, zpow_sub₀ (by norm_num), zpow_natCast]
  push_cast
  field_simp

theorem Numeral.Tells.value?_eq {n : Numeral} (hx : Normal x)
    (h : n.Tells x.negative (shortest x)) :
    n.value? = some (.float x) := by
  have hinexact : (n.fraction.isEmpty && n.power.isNone) = false := by
    rcases h.inexact with hfraction | hpower
    · simp [hfraction]
    · simp [Option.isSome_iff_ne_none.mpr hpower]
  have hread := ofDecimal?_of_value_eq hx h.value
  rw [← h.negative] at hread
  unfold Numeral.value?
  simp only [hinexact, Bool.false_and, Bool.false_eq_true, if_false, hread, Option.map_some]

/-- A number in its normal form is read where it was written. -/
theorem numberFor?_floatChars (hx : Normal x) (hshape : shape.isNothing = false) :
    numberFor? shape (floatChars x) = some (.float x, []) := by
  obtain ⟨n, htells, hread⟩ := exists_numeral?_floatChars x
  have hself := hread [] ends_nil
  rw [List.append_nil] at hself
  rw [numberFor?, hself]
  simp [hshape, htells.value?_eq hx]

theorem reread?_float (hx : Normal x) (hshape : shape.isNothing = false) :
    reread? shape (.float x) = some (.float x) := by
  rw [reread?, numberFor?_floatChars hx hshape, Option.map_some]

end Written

section Read

mutual

/-- All numbers in a value are in their normal form. -/
def IsNormal : Json → Prop
  | float x => x.Normal
  | array items => AreNormalItems items
  | object members => AreNormalMembers members
  | _ => True

def AreNormalItems : List Json → Prop
  | [] => True
  | item :: rest => IsNormal item ∧ AreNormalItems rest

def AreNormalMembers : List (String × Json) → Prop
  | [] => True
  | (_, value) :: rest => IsNormal value ∧ AreNormalMembers rest

end

theorem areNormalMembers_iff {members : List (String × Json)} :
    AreNormalMembers members ↔ ∀ member ∈ members, IsNormal member.2 := by
  induction members with
  | nil => simp [AreNormalMembers]
  | cons member members ih => rw [AreNormalMembers, ih, List.forall_mem_cons]

theorem areNormalItems_iff {items : List Json} :
    AreNormalItems items ↔ ∀ item ∈ items, IsNormal item := by
  induction items with
  | nil => simp [AreNormalItems]
  | cons item items ih => rw [AreNormalItems, ih, List.forall_mem_cons]

theorem isNormal_object {members : List (String × Json)} (h : AreNormalMembers members) :
    IsNormal (.object members) := by
  rw [IsNormal]
  exact h

theorem isNormal_array {items : List Json} (h : AreNormalItems items) :
    IsNormal (.array items) := by
  rw [IsNormal]
  exact h

theorem isNormal_text (s : String) : IsNormal (.text s) := by
  rw [IsNormal] <;> simp

theorem isNormal_bool (b : Bool) : IsNormal (.bool b) := by
  rw [IsNormal] <;> simp

theorem isNormal_of_value? {n : Numeral} {value : Json} (h : n.value? = some value) :
    IsNormal value := by
  unfold Numeral.value? at h
  dsimp only at h
  split at h
  · cases h
    trivial
  · split at h
    · cases h
      trivial
    · obtain ⟨x, hx, rfl⟩ := Option.map_eq_some_iff.mp h
      exact normal_of_ofDecimal? hx

theorem inherited_isNormal : Inherited fun _ value => IsNormal value where
  null _ := trivial
  bool _ b _ := isNormal_bool b
  text _ s _ := isNormal_text s
  number _ _ _ _ h := isNormal_of_value? h
  array _ items _ h := by
    refine isNormal_array (areNormalItems_iff.mpr fun item hitem => ?_)
    obtain ⟨index, hindex⟩ := List.mem_iff_getElem?.mp hitem
    exact h index item hindex
  object _ members _ h := isNormal_object (areNormalMembers_iff.mpr h)

/-- Whatever is read has its numbers in their normal form. -/
theorem isNormal_of_parse? {document : String} {value : Json}
    (h : parse? shape document = some value) : IsNormal value :=
  inherited_isNormal.of_parse? h

end Read

end ComponentCompiler.Json
