import ComponentCompiler.Clock
import Mathlib.Algebra.Order.Ring.Nat

/-!
# Numbers that are zero

Rounding gives a number without a mantissa only where it gives the zero of its sign: a positive
ratio either has a mantissa of full precision or is rounded at the least exponent. A time in
milliseconds has no sign, so two such times are equal as numbers only if they are the same
(`Timestamp.same_iff`).
-/

namespace ComponentCompiler

namespace Binary64

variable {negative : Bool} {numerator denominator : Nat} {x : Binary64}

/-- At an exponent that is low enough a ratio is at least one. -/
theorem scaled_le (hn : numerator ≠ 0) {exponent : Int}
    (h : exponent + denominator.log2 + 1 ≤ numerator.log2) :
    (scaled numerator denominator exponent).2 ≤ (scaled numerator denominator exponent).1 := by
  have hlow : 2 ^ numerator.log2 ≤ numerator := Nat.log2_self_le hn
  have hhigh : denominator < 2 ^ (denominator.log2 + 1) := Nat.lt_log2_self
  unfold scaled
  split
  · rename_i hnonneg
    calc denominator * 2 ^ exponent.toNat
        ≤ 2 ^ (denominator.log2 + 1) * 2 ^ exponent.toNat :=
          Nat.mul_le_mul_right _ hhigh.le
      _ = 2 ^ (denominator.log2 + 1 + exponent.toNat) := (Nat.pow_add 2 _ _).symm
      _ ≤ 2 ^ numerator.log2 := Nat.pow_le_pow_right (by decide) (by omega)
      _ ≤ numerator := hlow
  · rename_i hneg
    calc denominator ≤ 2 ^ (denominator.log2 + 1) := hhigh.le
      _ ≤ 2 ^ (numerator.log2 + (-exponent).toNat) := Nat.pow_le_pow_right (by decide) (by omega)
      _ = 2 ^ numerator.log2 * 2 ^ (-exponent).toNat := Nat.pow_add 2 _ _
      _ ≤ numerator * 2 ^ (-exponent).toNat := Nat.mul_le_mul_right _ hlow

theorem le_nearest {top bottom : Nat} : top / bottom ≤ nearest top bottom := by
  unfold nearest
  dsimp only
  split
  · exact le_refl _
  · split
    · exact Nat.le_succ _
    · exact Nat.le_add_right _ _

theorem scaled_snd_pos (numerator : Nat) (hd : 0 < denominator) (exponent : Int) :
    0 < (scaled numerator denominator exponent).2 := by
  unfold scaled
  split
  · exact Nat.mul_pos hd (Nat.two_pow_pos _)
  · exact hd

theorem exponentOf_le (h : leastExponent < exponentOf numerator denominator) :
    exponentOf numerator denominator + denominator.log2 + 1 ≤ numerator.log2 := by
  have hguess : exponentOf numerator denominator ≤
      (numerator.log2 : Int) - denominator.log2 - precision + 1 := by
    unfold exponentOf at h ⊢
    dsimp only at h ⊢
    split at h <;> split <;> omega
  have hprecision : (precision : Int) = 53 := rfl
  omega

/-- Above the least exponent a positive ratio is not rounded to zero. -/
theorem nearest_pos (hn : numerator ≠ 0) (hd : 0 < denominator)
    (h : leastExponent < exponentOf numerator denominator) :
    0 < nearest (scaled numerator denominator (exponentOf numerator denominator)).1
      (scaled numerator denominator (exponentOf numerator denominator)).2 := by
  have hle := scaled_le hn (exponentOf_le h)
  have hpos := scaled_snd_pos numerator hd (exponentOf numerator denominator)
  exact lt_of_lt_of_le (Nat.div_pos hle hpos) le_nearest

theorem leastExponent_le_exponentOf (numerator denominator : Nat) :
    leastExponent ≤ exponentOf numerator denominator := by
  unfold exponentOf
  exact Int.le_max_right _ _

/-- What a positive ratio is rounded to. -/
theorem eq_of_ofRatio? (hn : numerator ≠ 0)
    (h : ofRatio? negative numerator denominator = some x) :
    x = ⟨negative, 2 ^ (precision - 1), exponentOf numerator denominator + 1⟩ ∨
      x = ⟨negative, nearest (scaled numerator denominator (exponentOf numerator denominator)).1
        (scaled numerator denominator (exponentOf numerator denominator)).2,
        exponentOf numerator denominator⟩ := by
  rw [ofRatio?, if_neg hn] at h
  dsimp only at h
  split at h
  · simp only [Option.ite_none_right_eq_some, Option.some.injEq] at h
    exact .inl h.2.symm
  · simp only [Option.ite_none_right_eq_some, Option.some.injEq] at h
    exact .inr h.2.symm

theorem negative_of_ofRatio? (h : ofRatio? negative numerator denominator = some x) :
    x.negative = negative := by
  by_cases hn : numerator = 0
  · rw [ofRatio?, if_pos hn] at h
    cases h
    rfl
  · rcases eq_of_ofRatio? hn h with rfl | rfl <;> rfl

/-- A ratio that is rounded to a number without a mantissa is rounded to zero. -/
theorem eq_zero_of_ofRatio? (hd : 0 < denominator)
    (h : ofRatio? negative numerator denominator = some x) (hx : x.mantissa = 0) :
    x = zero negative := by
  by_cases hn : numerator = 0
  · rw [ofRatio?, if_pos hn] at h
    cases h
    rfl
  · rcases eq_of_ofRatio? hn h with rfl | rfl
    · exact absurd hx (Nat.two_pow_pos _).ne'
    · by_cases hleast : leastExponent < exponentOf numerator denominator
      · exact absurd hx (nearest_pos hn hd hleast).ne'
      · have heq : exponentOf numerator denominator = leastExponent :=
          le_antisymm (not_lt.mp hleast) (leastExponent_le_exponentOf _ _)
        rw [heq] at hx ⊢
        dsimp only at hx
        rw [hx]
        rfl

end Binary64

namespace Timestamp

/-- A time in milliseconds is a product that has no sign. -/
theorem milliseconds?_eq_some {time : Timestamp} {x : Binary64}
    (h : time.milliseconds? = some x) :
    ∃ sum : Binary64, sum.negative = false ∧ sum.times? 1000 = some x := by
  unfold milliseconds? at h
  split at h
  · cases h
  · obtain ⟨seconds, -, h⟩ := Option.bind_eq_some_iff.mp h
    obtain ⟨fraction, -, h⟩ := Option.bind_eq_some_iff.mp h
    obtain ⟨sum, hsum, h⟩ := Option.bind_eq_some_iff.mp h
    exact ⟨sum, Binary64.negative_of_ofRatio? hsum, h⟩

/-- Times in milliseconds are equal as numbers exactly if they are the same. -/
theorem same_iff {time time' : Timestamp} {x y : Binary64} (hx : time.milliseconds? = some x)
    (hy : time'.milliseconds? = some y) : x.same y ↔ x = y := by
  have hzero : ∀ {time : Timestamp} {z : Binary64}, time.milliseconds? = some z →
      z.mantissa = 0 → z = Binary64.zero false := by
    intro time z hz hmantissa
    obtain ⟨sum, hsign, hproduct⟩ := milliseconds?_eq_some hz
    have hd : 0 < sum.ratio.2 := Binary64.scaled_snd_pos _ Nat.one_pos _
    rw [← hsign]
    exact Binary64.eq_zero_of_ofRatio? hd hproduct hmantissa
  constructor
  · intro hsame
    rcases Bool.or_eq_true_iff.mp hsame with heq | hmantissas
    · exact eq_of_beq heq
    · rw [Bool.and_eq_true, beq_iff_eq, beq_iff_eq] at hmantissas
      rw [hzero hx hmantissas.1, hzero hy hmantissas.2]
  · rintro rfl
    simp [Binary64.same]

end Timestamp
end ComponentCompiler
