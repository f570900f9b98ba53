import ComponentCompiler.Proofs.Decimal.Rounding

/-!
# The shortest decimal reads back

The decimal that a number is written with lies in the interval of the number (`rounds_shortest`):
with seventeen digits the grid is so fine that one of the neighbours of the number always does. So
every decimal with the same value is read as the number again (`ofDecimal?_of_value_eq`).
-/

namespace ComponentCompiler

open Binary64

namespace Decimal

variable {x : Binary64} {q : ℚ} {digits : Nat} {power : Int}

/-- The value of a decimal. -/
def Numeral.value (d : Numeral) : ℚ := d.digits * 10 ^ d.power

section Crossing

theorem pow_toNat {base : ℚ} (hbase : base ≠ 0) (power : Int) :
    base ^ power.toNat = base ^ power * base ^ (-power).toNat := by
  rw [← zpow_natCast, ← zpow_natCast, ← zpow_add₀ hbase]
  congr 1
  omega

/-- What clears the denominators of a power of ten and a power of two. -/
def clearing (power exponent : Int) : ℚ := 2 ^ (-exponent).toNat * 10 ^ (-power).toNat

theorem clearing_pos (power exponent : Int) : 0 < clearing power exponent := by
  unfold clearing
  positivity

theorem cast_crossed_fst (a : Nat) (power : Int) (b : Nat) (exponent : Int) :
    ((crossed a power b exponent).1 : ℚ) = a * 10 ^ power * clearing power exponent := by
  have hten := pow_toNat (show (10 : ℚ) ≠ 0 by norm_num) power
  unfold crossed clearing
  push_cast
  rw [hten]
  ring

theorem cast_crossed_snd (a : Nat) (power : Int) (b : Nat) (exponent : Int) :
    ((crossed a power b exponent).2 : ℚ) = b * 2 ^ exponent * clearing power exponent := by
  have htwo := pow_toNat (show (2 : ℚ) ≠ 0 by norm_num) exponent
  unfold crossed clearing
  push_cast
  rw [htwo]
  ring

theorem crossed_le_iff (a : Nat) (power : Int) (b : Nat) (exponent : Int) :
    (crossed a power b exponent).1 ≤ (crossed a power b exponent).2 ↔
      (a * 10 ^ power : ℚ) ≤ b * 2 ^ exponent := by
  rw [← Nat.cast_le (α := ℚ), cast_crossed_fst, cast_crossed_snd,
    mul_le_mul_iff_left₀ (clearing_pos power exponent)]

theorem le_crossed_iff (a : Nat) (power : Int) (b : Nat) (exponent : Int) :
    (crossed a power b exponent).2 ≤ (crossed a power b exponent).1 ↔
      (b * 2 ^ exponent : ℚ) ≤ a * 10 ^ power := by
  rw [← Nat.cast_le (α := ℚ), cast_crossed_fst, cast_crossed_snd,
    mul_le_mul_iff_left₀ (clearing_pos power exponent)]

/-- The interval of a number is the one of the ratios that are rounded to it. -/
theorem holds_iff_rounds : (intervalOf x).holds (x.exponent - 2) digits power = true ↔
    Rounds x (digits * 10 ^ power) := by
  unfold Interval.holds Rounds
  dsimp only
  split
  · rw [Bool.and_eq_true, decide_eq_true_eq, decide_eq_true_eq, crossed_le_iff, le_crossed_iff]
  · rw [Bool.and_eq_true, decide_eq_true_eq, decide_eq_true_eq, ← not_le, ← not_le, crossed_le_iff,
      le_crossed_iff, not_le, not_le]

end Crossing

section Lead

theorem pow_length_toDigits {n : Nat} (hn : n ≠ 0) :
    10 ^ ((Nat.toDigits 10 n).length - 1) ≤ n ∧ n < 10 ^ (Nat.toDigits 10 n).length := by
  have hlength : 0 < (Nat.toDigits 10 n).length := List.length_pos_iff.mpr Nat.toDigits_ne_nil
  refine ⟨?_, (Nat.length_toDigits_le_iff (by decide) hlength).mp le_rfl⟩
  by_contra hlt
  by_cases hone : (Nat.toDigits 10 n).length = 1
  · rw [hone] at hlt
    omega
  · have hle := (Nat.length_toDigits_le_iff (b := 10) (k := (Nat.toDigits 10 n).length - 1) (n := n)
      (by decide) (by omega)).mpr (not_le.mp hlt)
    omega

theorem search_spec (numerator denominator fuel places : Nat) :
    denominator ≤ numerator * 10 ^ leadingPower.search numerator denominator fuel places ∨
      leadingPower.search numerator denominator fuel places = places + fuel := by
  induction fuel generalizing places with
  | zero => exact .inr rfl
  | succ fuel ih =>
      rw [leadingPower.search]
      split
      · rename_i hfound
        exact .inl hfound
      · rcases ih (places + 1) with hfound | hend
        · exact .inl hfound
        · exact .inr (by omega)

/-- The leading digit of a ratio stands at most at the place of the ratio. -/
theorem pow_leadingPower_le {numerator denominator : Nat} (hd : denominator ≠ 0)
    (hsmall : denominator ≤ numerator * 10 ^ (1 + 400)) :
    (10 : ℚ) ^ leadingPower numerator denominator ≤ numerator / denominator := by
  have hd' : (0 : ℚ) < denominator := by exact_mod_cast Nat.pos_of_ne_zero hd
  unfold leadingPower
  split
  · rename_i hle
    have hquotient : numerator / denominator ≠ 0 :=
      (Nat.div_pos hle (Nat.pos_of_ne_zero hd)).ne'
    have hlength : 0 < (Nat.toDigits 10 (numerator / denominator)).length :=
      List.length_pos_iff.mpr Nat.toDigits_ne_nil
    have hpow := (pow_length_toDigits hquotient).1
    rw [show (((Nat.toDigits 10 (numerator / denominator)).length : Int) - 1) =
      (((Nat.toDigits 10 (numerator / denominator)).length - 1 : Nat) : Int) by omega, zpow_natCast,
      le_div_iff₀ hd']
    have hmul := (Nat.le_div_iff_mul_le (Nat.pos_of_ne_zero hd)).mp hpow
    exact_mod_cast hmul
  · have hfound : denominator ≤
        numerator * 10 ^ leadingPower.search numerator denominator 400 1 := by
      rcases search_spec numerator denominator 400 1 with hfound | hend
      · exact hfound
      · rw [hend]
        exact hsmall
    rw [zpow_neg, zpow_natCast, le_div_iff₀ hd', inv_mul_le_iff₀ (by positivity), mul_comm]
    exact_mod_cast hfound

end Lead

section Grid

theorem cast_ratio (x : Binary64) :
    (x.ratio.1 : ℚ) / x.ratio.2 = x.mantissa * 2 ^ x.exponent := by
  rw [ratio, cast_scaled, Nat.cast_one, div_one, zpow_neg, div_inv_eq_mul]

/-- Decimals that lie strictly between the ends of an interval are in it. -/
theorem rounds_of_between (hlow : (intervalOf x).low * 2 ^ (x.exponent - 2) < q)
    (hhigh : q < (intervalOf x).high * 2 ^ (x.exponent - 2)) : Rounds x q := by
  unfold Rounds
  dsimp only
  split
  · exact ⟨hlow.le, hhigh.le⟩
  · exact ⟨hlow, hhigh⟩

/-- What is found on a grid lies in the interval. -/
theorem rounds_of_neighbour? (h : neighbour? x power = some digits) :
    Rounds x (digits * 10 ^ power) := by
  rw [← holds_iff_rounds]
  unfold neighbour? at h
  dsimp only at h
  split at h
  · cases h
  · rename_i hlower _
    cases h
    exact hlower
  · rename_i hupper
    cases h
    exact hupper
  · rename_i hlower hupper
    split at h
    · cases h
      exact hlower
    · split at h
      · cases h
        exact hupper
      · cases h
        rcases Nat.mod_two_eq_zero_or_one
          ((crossed 1 power (intervalOf x).middle (x.exponent - 2)).2 /
            (crossed 1 power (intervalOf x).middle (x.exponent - 2)).1) with hzero | hone
        · rw [hzero]
          exact hlower
        · rw [hone]
          exact hupper

/-- The point of the grid of a power of ten below a number. -/
def floorOf (x : Binary64) (power : Int) : Nat :=
  (crossed 1 power (intervalOf x).middle (x.exponent - 2)).2 /
    (crossed 1 power (intervalOf x).middle (x.exponent - 2)).1

/-- A number lies between the neighbours on a grid. -/
theorem floorOf_spec (x : Binary64) (power : Int) :
    floorOf x power * 10 ^ power ≤ (x.mantissa * 2 ^ x.exponent : ℚ) ∧
      (x.mantissa * 2 ^ x.exponent : ℚ) < (floorOf x power + 1) * 10 ^ power := by
  have hunit := cast_crossed_fst 1 power (intervalOf x).middle (x.exponent - 2)
  have hvalue := cast_crossed_snd 1 power (intervalOf x).middle (x.exponent - 2)
  have hclearing := clearing_pos power (x.exponent - 2)
  have hmiddle : ((intervalOf x).middle : ℚ) * 2 ^ (x.exponent - 2) =
      x.mantissa * 2 ^ x.exponent := by
    rw [intervalOf, two_zpow_eq_quarter x.exponent]
    push_cast
    ring
  rw [hmiddle] at hvalue
  unfold floorOf
  generalize (crossed 1 power (intervalOf x).middle (x.exponent - 2)).1 = unit at hunit ⊢
  generalize (crossed 1 power (intervalOf x).middle (x.exponent - 2)).2 = value at hvalue ⊢
  rw [Nat.cast_one, one_mul] at hunit
  have hpos : 0 < unit := by
    have hcast : (0 : ℚ) < unit := by
      rw [hunit]
      positivity
    exact_mod_cast hcast
  have hlow : ((value / unit : Nat) : ℚ) * unit ≤ value := by
    exact_mod_cast Nat.div_mul_le_self value unit
  have hhigh : (value : ℚ) < ((value / unit : Nat) + 1) * unit := by
    exact_mod_cast Nat.lt_mul_of_div_lt (Nat.lt_succ_self _) hpos
  rw [hunit, hvalue, ← mul_assoc] at hlow hhigh
  exact ⟨le_of_mul_le_mul_right hlow hclearing, lt_of_mul_lt_mul_right hhigh hclearing.le⟩

theorem exists_neighbour?_of_rounds (h : Rounds x (floorOf x power * 10 ^ power) ∨
    Rounds x ((floorOf x power + 1 : Nat) * 10 ^ power)) :
    ∃ digits, neighbour? x power = some digits := by
  rw [← Option.isSome_iff_exists, Option.isSome_iff_ne_none]
  intro hnone
  rw [← holds_iff_rounds, ← holds_iff_rounds, floorOf] at h
  unfold neighbour? at hnone
  dsimp only at hnone
  split at hnone
  · simp_all
  · cases hnone
  · cases hnone
  · split at hnone
    · cases hnone
    · split at hnone <;> cases hnone

/-- A grid that is fine enough has a neighbour of the number in the interval. -/
theorem exists_neighbour? (hx : Normal x) (hpos : x.mantissa ≠ 0)
    (hfine : (10 ^ 16 * 10 ^ power : ℚ) ≤ x.mantissa * 2 ^ x.exponent) :
    ∃ digits, neighbour? x power = some digits := by
  obtain ⟨hlow, hhigh⟩ := floorOf_spec x power
  have hunit : (0 : ℚ) < 10 ^ power := by positivity
  have hquarter := quarter_pos x.exponent
  have hsmall : (x.mantissa : ℚ) < 2 ^ 53 := by exact_mod_cast hx.small
  have hhighEnd : ((intervalOf x).high : ℚ) = 4 * x.mantissa + 2 := by
    rw [intervalOf]
    push_cast
    ring
  -- Where the interval is shorter below, the grid is finer by half.
  have hlowEnd : ((intervalOf x).low : ℚ) + 4 * x.mantissa / 10 ^ 16 < 4 * x.mantissa + 2 ∧
      ((intervalOf x).low : ℚ) < 4 * x.mantissa := by
    unfold intervalOf
    dsimp only
    split
    · rename_i hboundary
      rw [hboundary.1]
      norm_num [precision]
    · rw [Nat.cast_sub (by omega)]
      push_cast
      constructor <;> linarith
  apply exists_neighbour?_of_rounds
  have hpow := two_zpow_eq_quarter x.exponent
  rw [hpow] at hlow hhigh hfine
  by_cases hbelow : ((intervalOf x).low : ℚ) * 2 ^ (x.exponent - 2) < floorOf x power * 10 ^ power
  · refine .inl (rounds_of_between hbelow ?_)
    rw [hhighEnd]
    linarith
  · refine .inr (rounds_of_between ?_ ?_)
    · push_cast
      nlinarith [hlowEnd.2]
    · push_cast
      rw [hhighEnd]
      have hgrid : (10 ^ power : ℚ) ≤ 4 * x.mantissa / 10 ^ 16 * 2 ^ (x.exponent - 2) := by
        rw [div_mul_eq_mul_div, le_div_iff₀ (by positivity)]
        linarith
      have hmul := mul_lt_mul_of_pos_right hlowEnd.1 hquarter
      linarith

end Grid

section Shortest

theorem value_strip (d : Numeral) (fuel : Nat) : (d.strip fuel).value = d.value := by
  induction fuel generalizing d with
  | zero => rfl
  | succ fuel ih =>
      rw [Numeral.strip]
      split
      · rename_i hlast
        rw [ih, Numeral.value, Numeral.value]
        have hdigits : d.digits = d.digits / 10 * 10 := by omega
        have hcast : (d.digits : ℚ) = (d.digits / 10 : Nat) * 10 := by exact_mod_cast hdigits
        dsimp only
        rw [zpow_add_one₀ (by norm_num), hcast]
        ring
      · rfl

theorem two_pow_le_ten_pow (n : Nat) : 2 ^ (3 * n) ≤ 10 ^ n := by
  rw [Nat.pow_mul]
  exact Nat.pow_le_pow_left (by decide) n

/-- The smallest positive number is not smaller than the last place that is looked at. -/
theorem ratio_not_small (hx : Normal x) (hpos : x.mantissa ≠ 0) :
    x.ratio.2 ≤ x.ratio.1 * 10 ^ (1 + 400) := by
  obtain ⟨n, hn⟩ : ∃ n, n = 361 := ⟨_, rfl⟩
  generalize hlast : 1 + 400 = last
  have hten : 10 ^ n ≤ 10 ^ last := Nat.pow_le_pow_right (by decide) (by omega)
  have hmantissa : 1 ≤ x.mantissa := Nat.one_le_iff_ne_zero.mpr hpos
  unfold ratio scaled
  split
  · have hexponent : (-x.exponent).toNat ≤ 3 * n := by
      have hleast := hx.least
      unfold leastExponent at hleast
      omega
    calc 1 * 2 ^ (-x.exponent).toNat = 2 ^ (-x.exponent).toNat := Nat.one_mul _
      _ ≤ 2 ^ (3 * n) := Nat.pow_le_pow_right (by decide) hexponent
      _ ≤ 10 ^ last := (two_pow_le_ten_pow n).trans hten
      _ ≤ x.mantissa * 10 ^ last := Nat.le_mul_of_pos_left _ hmantissa
  · calc 1 ≤ x.mantissa * 2 ^ (- -x.exponent).toNat * 10 ^ last :=
      Nat.mul_pos (Nat.mul_pos hmantissa (Nat.two_pow_pos _)) (Nat.pow_pos (by decide))

/-- The decimal that a number is written with lies in the interval of the number. -/
theorem rounds_shortest (hx : Normal x) (hpos : x.mantissa ≠ 0) : Rounds x (shortest x).value := by
  have hd : x.ratio.2 ≠ 0 := (scaled_snd_pos x.mantissa Nat.one_pos (-x.exponent)).ne'
  have hlead := pow_leadingPower_le hd (ratio_not_small hx hpos)
  rw [cast_ratio] at hlead
  unfold shortest
  rw [if_neg hpos]
  dsimp only
  rw [value_strip]
  generalize leadingPower x.ratio.1 x.ratio.2 = lead at hlead ⊢
  have hfine : (10 ^ 16 * 10 ^ (lead - (16 : Nat)) : ℚ) ≤ x.mantissa * 2 ^ x.exponent := by
    rw [← zpow_natCast, ← zpow_add₀ (by norm_num)]
    convert hlead using 2
    push_cast
    ring
  obtain ⟨digits, hdigits⟩ := exists_neighbour? hx hpos hfine
  generalize hfound : List.findSome? _ _ = found
  cases found with
  | none =>
      rw [List.findSome?_eq_none_iff] at hfound
      have hnone := hfound 16 (by decide)
      rw [hdigits] at hnone
      cases hnone
  | some d =>
      obtain ⟨places, -, hplaces⟩ := List.exists_of_findSome?_eq_some hfound
      obtain ⟨digits, hdigits, rfl⟩ := Option.map_eq_some_iff.mp hplaces
      exact rounds_of_neighbour? hdigits

/-- What is read as a positive number is at least half of the smallest one. -/
theorem two_pow_le_of_rounds (hx : Normal x) (hpos : x.mantissa ≠ 0) (h : Rounds x q) :
    (2 : ℚ) ^ (leastExponent - 1) ≤ q := by
  have hone : (1 : ℚ) ≤ x.mantissa := by exact_mod_cast Nat.one_le_iff_ne_zero.mpr hpos
  have hpow : (0 : ℚ) < 2 ^ x.exponent := by positivity
  calc (2 : ℚ) ^ (leastExponent - 1) ≤ 2 ^ (x.exponent - 1) :=
        zpow_le_zpow_right₀ one_le_two (Int.sub_le_sub_right hx.least 1)
    _ = 1 / 2 * 2 ^ x.exponent := by
        rw [zpow_sub_one₀ two_ne_zero]
        ring
    _ ≤ (x.mantissa - 1 / 2) * 2 ^ x.exponent :=
        mul_le_mul_of_nonneg_right (by linarith) hpow.le
    _ ≤ q := (h.near hpos).low

/-- It is below the power of two after the greatest number. -/
theorem lt_two_pow_of_rounds (hx : Normal x) (hpos : x.mantissa ≠ 0) (h : Rounds x q) :
    q < (2 : ℚ) ^ ((precision : Int) + greatestExponent) := by
  have hsmall : (x.mantissa + 1 : ℚ) ≤ 2 ^ precision := by exact_mod_cast hx.small
  have hpow : (0 : ℚ) < 2 ^ x.exponent := by positivity
  calc q ≤ (x.mantissa + 1 / 2) * 2 ^ x.exponent := (h.near hpos).high
    _ < 2 ^ precision * 2 ^ x.exponent := mul_lt_mul_of_pos_right (by linarith) hpow
    _ = 2 ^ ((precision : Int) + x.exponent) := by
        rw [zpow_add₀ two_ne_zero, zpow_natCast]
    _ ≤ 2 ^ ((precision : Int) + greatestExponent) :=
        zpow_le_zpow_right₀ one_le_two (Int.add_le_add_left hx.greatest _)

theorem digits_ne_zero_of_rounds (hx : Normal x) (hpos : x.mantissa ≠ 0)
    (h : Rounds x (digits * 10 ^ power)) : digits ≠ 0 := by
  rintro rfl
  have hlow := two_pow_le_of_rounds hx hpos h
  rw [Nat.cast_zero, zero_mul] at hlow
  exact absurd hlow (not_le.mpr (by positivity))

/-- The value of a decimal that is read as a number is neither too large nor too small. -/
theorem length_of_rounds (hx : Normal x) (hpos : x.mantissa ≠ 0)
    (h : Rounds x (digits * 10 ^ power)) :
    -400 ≤ power + (Nat.toDigits 10 digits).length ∧
      power + (Nat.toDigits 10 digits).length ≤ 400 := by
  have hten : (0 : ℚ) < 10 ^ power := by positivity
  obtain ⟨hlead, hlength⟩ := pow_length_toDigits (digits_ne_zero_of_rounds hx hpos h)
  have hpositive : 0 < (Nat.toDigits 10 digits).length :=
    List.length_pos_iff.mpr Nat.toDigits_ne_nil
  generalize (Nat.toDigits 10 digits).length = length at *
  obtain ⟨n, hn⟩ : ∃ n : Nat, n = 361 := ⟨_, rfl⟩
  have htwo : (2 : ℚ) ^ ((3 * n : Nat) : Int) ≤ 10 ^ (n : Int) := by
    rw [zpow_natCast, zpow_natCast]
    exact_mod_cast two_pow_le_ten_pow n
  constructor
  · by_contra hlt
    have hbelow : (digits * 10 ^ power : ℚ) < 10 ^ (-(n : Int)) := by
      calc (digits * 10 ^ power : ℚ) < 10 ^ length * 10 ^ power := by
            refine mul_lt_mul_of_pos_right ?_ hten
            exact_mod_cast hlength
        _ = 10 ^ (power + length) := by
            rw [← zpow_natCast, ← zpow_add₀ (by norm_num), add_comm]
        _ ≤ 10 ^ (-(n : Int)) := zpow_le_zpow_right₀ (by norm_num) (by omega)
    have habove : (2 : ℚ) ^ (-((3 * n : Nat) : Int)) ≤ digits * 10 ^ power :=
      (zpow_le_zpow_right₀ one_le_two (by unfold leastExponent; omega)).trans
        (two_pow_le_of_rounds hx hpos h)
    have hinv : (10 : ℚ) ^ (-(n : Int)) ≤ 2 ^ (-((3 * n : Nat) : Int)) := by
      rw [zpow_neg, zpow_neg]
      exact inv_anti₀ (by positivity) htwo
    exact absurd (hbelow.trans_le (hinv.trans habove)) (lt_irrefl _)
  · by_contra hgt
    have habove : (10 : ℚ) ^ (n : Int) ≤ digits * 10 ^ power := by
      calc (10 : ℚ) ^ (n : Int) ≤ 10 ^ (((length - 1 : Nat) : Int) + power) :=
            zpow_le_zpow_right₀ (by norm_num) (by omega)
        _ = 10 ^ (length - 1) * 10 ^ power := by
            rw [zpow_add₀ (by norm_num), zpow_natCast]
        _ ≤ digits * 10 ^ power := by
            refine mul_le_mul_of_nonneg_right ?_ hten.le
            exact_mod_cast hlead
    have hbelow : (digits * 10 ^ power : ℚ) < 2 ^ ((3 * n : Nat) : Int) :=
      (lt_two_pow_of_rounds hx hpos h).trans_le
        (zpow_le_zpow_right₀ one_le_two (by unfold precision greatestExponent; omega))
    exact absurd (hbelow.trans_le (htwo.trans habove)) (lt_irrefl _)

/-- Every decimal in the interval of a number is read as the number. -/
theorem ofDecimal?_of_rounds (hx : Normal x) (hpos : x.mantissa ≠ 0)
    (h : Rounds x (digits * 10 ^ power)) : ofDecimal? x.negative digits power = some x := by
  obtain ⟨hlow, hhigh⟩ := length_of_rounds hx hpos h
  have hdigits := digits_ne_zero_of_rounds hx hpos h
  unfold ofDecimal?
  dsimp only
  rw [if_neg (by omega), if_neg (by omega)]
  have hten := pow_toNat (show (10 : ℚ) ≠ 0 by norm_num) power
  split
  · rename_i hpower
    refine ofRatio?_of_rounds hx hpos one_ne_zero ?_
    rw [show (-power).toNat = 0 by omega, pow_zero, mul_one] at hten
    push_cast
    rwa [div_one, hten]
  · rename_i hpower
    refine ofRatio?_of_rounds hx hpos (by positivity) ?_
    rw [show power.toNat = 0 by omega, pow_zero] at hten
    push_cast
    rwa [div_eq_mul_inv, ← eq_inv_of_mul_eq_one_left hten.symm]

/-- A number without a mantissa is the zero of its sign. -/
theorem eq_zero_of_normal (hx : Normal x) (hzero : x.mantissa = 0) : x = zero x.negative := by
  have hexponent : x.exponent = leastExponent := by
    refine hx.full.resolve_right fun hfull => ?_
    rw [hzero] at hfull
    exact absurd hfull (by decide)
  obtain ⟨negative, mantissa, exponent⟩ := x
  dsimp only at hzero hexponent
  rw [hzero, hexponent]
  rfl

/-- Every decimal that has the value of the shortest one is read as the number. -/
theorem ofDecimal?_of_value_eq (hx : Normal x)
    (h : (digits * 10 ^ power : ℚ) = (shortest x).value) :
    ofDecimal? x.negative digits power = some x := by
  by_cases hpos : x.mantissa = 0
  · have hdigits : digits = 0 := by
      rw [shortest, if_pos hpos, Numeral.value, Nat.cast_zero, zero_mul] at h
      have hten : (10 : ℚ) ^ power ≠ 0 := by positivity
      exact_mod_cast (mul_eq_zero.mp h).resolve_right hten
    rw [hdigits, ofDecimal?, if_pos (.inl rfl), ← eq_zero_of_normal hx hpos]
  · exact ofDecimal?_of_rounds hx hpos (h ▸ rounds_shortest hx hpos)

end Shortest

end Decimal
end ComponentCompiler
