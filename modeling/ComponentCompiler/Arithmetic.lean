/-!
# Arithmetic that may fail

A number of 32 bits has no room for every sum, no number is less than zero, and a number can be
moved between two bounds only if these are in order. Each operation has a result exactly where it
has the right one.
-/

-- A power of natural numbers is that of the core library, whatever else is imported.
attribute [instance (20000), default_instance 20000] instPowNat

namespace ComponentCompiler

/-- A sum of numbers of 32 bits; there is none beyond them. -/
def wordSum? (x y : UInt32) : Option UInt32 :=
  if x.toNat + y.toNat < 2 ^ 32 then some (x + y) else none

/-- A difference of numbers of 32 bits; there is none below zero. -/
def wordDifference? (x y : UInt32) : Option UInt32 := if y ≤ x then some (x - y) else none

/-- A number of 32 bits moved between two bounds, if these are in order. -/
def wordClamp? (x low high : UInt32) : Option UInt32 :=
  if low ≤ high then some (max low (min x high)) else none

/-- A difference; there is none below zero. -/
def difference? (a b : Nat) : Option Nat := if b ≤ a then some (a - b) else none

/-- A number moved between two bounds, if these are in order. -/
def clamp? (n low high : Nat) : Option Nat :=
  if low ≤ high then some (max low (min n high)) else none

section Words

variable {x y low high : UInt32}

theorem wordSum?_of_lt (h : x.toNat + y.toNat < 2 ^ 32) : wordSum? x y = some (x + y) := if_pos h

theorem wordSum?_eq_some_iff {sum : UInt32} :
    wordSum? x y = some sum ↔ x.toNat + y.toNat < 2 ^ 32 ∧ x + y = sum := by
  simp [wordSum?]

/-- The result is the exact sum. -/
theorem toNat_of_wordSum? {sum : UInt32} (h : wordSum? x y = some sum) :
    sum.toNat = x.toNat + y.toNat := by
  obtain ⟨hfits, rfl⟩ := wordSum?_eq_some_iff.mp h
  rw [UInt32.toNat_add, Nat.mod_eq_of_lt hfits]

theorem wordSum?_eq_none_iff : wordSum? x y = none ↔ 2 ^ 32 ≤ x.toNat + y.toNat := by
  rw [wordSum?]
  split <;> simp <;> omega

/-- The number after a number. -/
theorem wordSum?_ofNat_one {n : Nat} (h : n < 2 ^ 32) :
    wordSum? (UInt32.ofNat n) 1 = if n + 1 < 2 ^ 32 then some (UInt32.ofNat (n + 1)) else none := by
  rw [wordSum?, UInt32.toNat_ofNat_of_lt' h, UInt32.toNat_one, UInt32.ofNat_add]
  rfl

theorem wordDifference?_of_le (h : y ≤ x) : wordDifference? x y = some (x - y) := if_pos h

theorem wordDifference?_one (h : x ≠ 0) : wordDifference? x 1 = some (x - 1) := by
  refine wordDifference?_of_le (UInt32.le_iff_toNat_le.mpr ?_)
  exact Nat.one_le_iff_ne_zero.mpr fun hzero => h (UInt32.toNat_inj.mp hzero)

theorem wordClamp?_of_le (h : low ≤ high) (x : UInt32) :
    wordClamp? x low high = some (max low (min x high)) := if_pos h

end Words

theorem difference?_of_le {a b : Nat} (h : b ≤ a) : difference? a b = some (a - b) := if_pos h

theorem clamp?_of_le {low high : Nat} (h : low ≤ high) (n : Nat) :
    clamp? n low high = some (max low (min n high)) := if_pos h

end ComponentCompiler
