import ComponentCompiler.Decimal.Shortest
import ComponentCompiler.Proofs.Decimal.Zero
import Mathlib.Algebra.Order.Field.Power
import Mathlib.Algebra.Order.Field.Rat
import Mathlib.Tactic.FieldSimp
import Mathlib.Tactic.Linarith
import Mathlib.Tactic.NormNum
import Mathlib.Tactic.Positivity
import Mathlib.Tactic.Ring

/-!
# What a ratio is rounded to

A ratio is rounded at the exponent at which it has a mantissa of full precision, or at the least
exponent (`exponentOf_cases`). A number stands for an interval around its value, and every ratio in
it is rounded to the number (`ofRatio?_of_rounds`). What a ratio is rounded to is always a number
in its normal form (`normal_of_ofRatio?`).
-/

namespace ComponentCompiler

namespace Binary64

variable {negative : Bool} {numerator denominator : Nat} {x : Binary64}

/-- A number in the form that results of rounding have. -/
structure Normal (x : Binary64) : Prop where
  small : x.mantissa < 2 ^ precision
  full : x.exponent = leastExponent ∨ 2 ^ (precision - 1) ≤ x.mantissa
  least : leastExponent ≤ x.exponent
  greatest : x.exponent ≤ greatestExponent

section Nearest

/-- The natural number nearest to a ratio is less than half away, or just half and even. -/
theorem nearest_eq {top bottom M : Nat} (hpos : 0 < bottom)
    (hlow : 2 * M * bottom ≤ 2 * top + bottom) (hhigh : 2 * top ≤ 2 * M * bottom + bottom)
    (heven : 2 * M * bottom = 2 * top + bottom ∨ 2 * top = 2 * M * bottom + bottom → M % 2 = 0) :
    nearest top bottom = M := by
  obtain ⟨quotient, hquotient⟩ : ∃ n, n = top / bottom := ⟨_, rfl⟩
  obtain ⟨rest, hrest⟩ : ∃ n, n = top % bottom := ⟨_, rfl⟩
  have hsplit : top = quotient * bottom + rest := by
    rw [hquotient, hrest, Nat.div_add_mod']
  have hlt : rest < bottom := hrest ▸ Nat.mod_lt top hpos
  have hM : M = quotient ∨ M = quotient + 1 := by
    have hbelow : 2 * M < 2 * quotient + 3 := by
      refine Nat.lt_of_mul_lt_mul_right (a := bottom) ?_
      rw [Nat.add_mul, Nat.mul_assoc 2 quotient]
      omega
    have habove : 2 * quotient < 2 * M + 2 := by
      refine Nat.lt_of_mul_lt_mul_right (a := bottom) ?_
      rw [Nat.add_mul, Nat.mul_assoc 2 quotient]
      omega
    omega
  unfold nearest
  dsimp only
  rw [← hquotient, ← hrest]
  rcases hM with rfl | rfl
  · rw [Nat.mul_assoc] at hhigh heven
    split
    · rfl
    · split
      · omega
      · have hparity := heven (.inr (by omega))
        omega
  · rw [Nat.mul_assoc, Nat.add_mul] at hlow heven
    split
    · omega
    · split
      · rfl
      · have hparity := heven (.inl (by omega))
        omega

theorem nearest_le {top bottom bound : Nat} (h : top / bottom < bound) :
    nearest top bottom ≤ bound := by
  unfold nearest
  dsimp only
  split
  · omega
  · split <;> omega

end Nearest

section Exponent

/-- A ratio divided by a power of two. -/
theorem cast_scaled (numerator denominator : Nat) (exponent : Int) :
    ((scaled numerator denominator exponent).1 : ℚ) / (scaled numerator denominator exponent).2 =
      (numerator / denominator : ℚ) / 2 ^ exponent := by
  unfold scaled
  split
  · rename_i hexponent
    obtain ⟨n, rfl⟩ := Int.eq_ofNat_of_zero_le hexponent
    rw [Int.toNat_natCast, Nat.cast_mul, Nat.cast_pow, Nat.cast_two, zpow_natCast, div_div]
  · rename_i hexponent
    obtain ⟨n, hn⟩ := Int.eq_ofNat_of_zero_le (show 0 ≤ -exponent by omega)
    have hneg : exponent = -(n : Int) := by omega
    rw [hn, hneg, Int.toNat_natCast, zpow_neg, zpow_natCast]
    push_cast
    field_simp

/-- A ratio of positive numbers and the powers of two around it. -/
theorem ratio_between (hn : numerator ≠ 0) (hd : denominator ≠ 0) :
    (2 : ℚ) ^ ((numerator.log2 : Int) - denominator.log2 - 1) < numerator / denominator ∧
      (numerator / denominator : ℚ) < 2 ^ ((numerator.log2 : Int) - denominator.log2 + 1) := by
  have hd' : (0 : ℚ) < denominator := by exact_mod_cast Nat.pos_of_ne_zero hd
  have hlown : ((2 : ℚ) ^ numerator.log2) ≤ numerator := by exact_mod_cast Nat.log2_self_le hn
  have hlowd : ((2 : ℚ) ^ denominator.log2) ≤ denominator := by exact_mod_cast Nat.log2_self_le hd
  have hhighn : (numerator : ℚ) < 2 ^ (numerator.log2 + 1) := by exact_mod_cast Nat.lt_log2_self
  have hhighd : (denominator : ℚ) < 2 ^ (denominator.log2 + 1) := by exact_mod_cast Nat.lt_log2_self
  constructor
  · rw [lt_div_iff₀ hd']
    calc (2 : ℚ) ^ ((numerator.log2 : Int) - denominator.log2 - 1) * denominator
        < 2 ^ ((numerator.log2 : Int) - denominator.log2 - 1) * 2 ^ (denominator.log2 + 1) := by
          gcongr
      _ = 2 ^ numerator.log2 := by
          rw [← zpow_natCast, ← zpow_natCast, ← zpow_add₀ two_ne_zero]
          congr 1
          push_cast
          ring
      _ ≤ numerator := hlown
  · rw [div_lt_iff₀ hd']
    calc (numerator : ℚ) < 2 ^ (numerator.log2 + 1) := hhighn
      _ = 2 ^ ((numerator.log2 : Int) - denominator.log2 + 1) * 2 ^ denominator.log2 := by
          rw [← zpow_natCast, ← zpow_natCast, ← zpow_add₀ two_ne_zero]
          congr 1
          push_cast
          ring
      _ ≤ 2 ^ ((numerator.log2 : Int) - denominator.log2 + 1) * denominator := by gcongr

/-- The ratio has a mantissa of full precision at an exponent. -/
def FullAt (q : ℚ) (exponent : Int) : Prop :=
  2 ^ (precision - 1) * 2 ^ exponent ≤ q ∧ q < 2 ^ precision * 2 ^ exponent

/-- A quotient is below a bound if the ratio is. -/
theorem div_lt_iff_scaled (hd : denominator ≠ 0) (exponent : Int) (bound : Nat) :
    (scaled numerator denominator exponent).1 / (scaled numerator denominator exponent).2 < bound ↔
      (numerator / denominator : ℚ) < bound * 2 ^ exponent := by
  have hpos := scaled_snd_pos numerator (Nat.pos_of_ne_zero hd) exponent
  have hpos' : (0 : ℚ) < (scaled numerator denominator exponent).2 := by exact_mod_cast hpos
  rw [← div_lt_iff₀ (by positivity), ← cast_scaled, div_lt_iff₀ hpos', Nat.div_lt_iff_lt_mul hpos]
  exact_mod_cast Iff.rfl

/-- The exponent of a ratio is the one of full precision, or the least one above it. -/
theorem exponentOf_cases (hn : numerator ≠ 0) (hd : denominator ≠ 0) :
    ∃ exact, FullAt (numerator / denominator) exact ∧
      exponentOf numerator denominator = max exact leastExponent := by
  obtain ⟨hlow, hhigh⟩ := ratio_between hn hd
  obtain ⟨guess, hguess⟩ : ∃ n : Int, n = numerator.log2 - denominator.log2 - precision := ⟨_, rfl⟩
  have hprecision : (precision : Int) = 53 := rfl
  have hfull : (2 : ℚ) ^ (precision - 1) * 2 ^ guess < numerator / denominator := by
    rw [← zpow_natCast, ← zpow_add₀ two_ne_zero]
    convert hlow using 2
    push_cast [precision]
    omega
  have hbound : (numerator / denominator : ℚ) < 2 ^ precision * 2 ^ (guess + 1) := by
    rw [← zpow_natCast, ← zpow_add₀ two_ne_zero]
    convert hhigh using 2
    omega
  have hquotient := @div_lt_iff_scaled numerator denominator hd guess (2 ^ precision)
  push_cast at hquotient
  unfold exponentOf
  dsimp only
  rw [← hguess]
  split
  · rename_i hlt
    exact ⟨guess, ⟨hfull.le, hquotient.mp hlt⟩, rfl⟩
  · rename_i hge
    refine ⟨guess + 1, ⟨?_, hbound⟩, rfl⟩
    have hle := not_lt.mp (fun h => hge (hquotient.mpr h))
    rw [zpow_add_one₀ two_ne_zero]
    calc (2 : ℚ) ^ (precision - 1) * (2 ^ guess * 2) = 2 ^ precision * 2 ^ guess := by
          rw [show precision = precision - 1 + 1 from rfl, pow_succ]
          simp only [Nat.add_sub_cancel]
          ring
      _ ≤ numerator / denominator := hle

/-- At no two exponents a ratio has a mantissa of full precision. -/
theorem FullAt.lt_of_lt {q : ℚ} {e e' : Int} (h : FullAt q e) (hq : q < 2 ^ precision * 2 ^ e') :
    e ≤ e' := by
  by_contra hlt
  have hle : e' + 1 ≤ e := by omega
  have hpow : (2 : ℚ) ^ (e' + 1) ≤ 2 ^ e := zpow_le_zpow_right₀ one_le_two hle
  rw [zpow_add_one₀ two_ne_zero] at hpow
  have hlow := h.1
  have hprecision : (2 : ℚ) ^ precision = 2 ^ (precision - 1) * 2 := by
    rw [← pow_succ]
    rfl
  rw [hprecision] at hq
  have hpos : (0 : ℚ) < 2 ^ (precision - 1) := by positivity
  nlinarith

theorem exponentOf_eq (hn : numerator ≠ 0) (hd : denominator ≠ 0) {e : Int}
    (h : FullAt (numerator / denominator) e) (hleast : leastExponent ≤ e) :
    exponentOf numerator denominator = e := by
  obtain ⟨exact, hexact, heq⟩ := exponentOf_cases hn hd
  have hle := hexact.lt_of_lt h.2
  have hge := h.lt_of_lt hexact.2
  omega

theorem exponentOf_eq_least (hn : numerator ≠ 0) (hd : denominator ≠ 0)
    (h : (numerator / denominator : ℚ) < 2 ^ precision * 2 ^ leastExponent) :
    exponentOf numerator denominator = leastExponent := by
  obtain ⟨exact, hexact, heq⟩ := exponentOf_cases hn hd
  have hle := hexact.lt_of_lt h
  omega

end Exponent

section Interval

variable {q : ℚ} {M : Nat} {e : Int}

/-- A ratio is less than half away from a multiple of a power of two, or just half and the multiple
is even. -/
structure Near (q : ℚ) (M : Nat) (e : Int) : Prop where
  low : (M - 1 / 2) * 2 ^ e ≤ q
  high : q ≤ (M + 1 / 2) * 2 ^ e
  even : q = (M - 1 / 2) * 2 ^ e ∨ q = (M + 1 / 2) * 2 ^ e → M % 2 = 0

theorem nearest_of_near (hd : denominator ≠ 0) (h : Near (numerator / denominator) M e) :
    nearest (scaled numerator denominator e).1 (scaled numerator denominator e).2 = M := by
  have hpos := scaled_snd_pos numerator (Nat.pos_of_ne_zero hd) e
  have hratio := cast_scaled numerator denominator e
  generalize (scaled numerator denominator e).1 = top at hratio ⊢
  generalize (scaled numerator denominator e).2 = bottom at hratio hpos ⊢
  have hpow : (0 : ℚ) < 2 ^ e := by positivity
  have hbottom : (0 : ℚ) < bottom := by exact_mod_cast hpos
  -- The ratio is `top / bottom` times the power, so all bounds are bounds of `top`.
  have htop : (numerator / denominator : ℚ) = top / bottom * 2 ^ e := by
    rw [hratio]
    field_simp
  obtain ⟨hlow, hhigh, heven⟩ := h
  rw [htop] at hlow hhigh heven
  have hlow' := le_of_mul_le_mul_right hlow hpow
  have hhigh' := le_of_mul_le_mul_right hhigh hpow
  rw [le_div_iff₀ hbottom] at hlow'
  rw [div_le_iff₀ hbottom] at hhigh'
  refine nearest_eq hpos ?_ ?_ ?_
  · have hle : (2 * M * bottom : ℚ) ≤ 2 * top + bottom := by linarith
    exact_mod_cast hle
  · have hle : (2 * top : ℚ) ≤ 2 * M * bottom + bottom := by linarith
    exact_mod_cast hle
  · intro htie
    refine heven (htie.imp (fun heq => ?_) fun heq => ?_)
    · have hcast : (2 * M * bottom : ℚ) = 2 * top + bottom := by exact_mod_cast heq
      congr 1
      rw [div_eq_iff hbottom.ne']
      linarith
    · have hcast : (2 * top : ℚ) = 2 * M * bottom + bottom := by exact_mod_cast heq
      congr 1
      rw [div_eq_iff hbottom.ne']
      linarith

/-- The ratios that a number stands for: those in its interval. -/
def Rounds (x : Binary64) (q : ℚ) : Prop :=
  let i := Decimal.intervalOf x
  let quarter : ℚ := 2 ^ (x.exponent - 2)
  if i.closed then i.low * quarter ≤ q ∧ q ≤ i.high * quarter
  else i.low * quarter < q ∧ q < i.high * quarter

theorem quarter_pos (e : Int) : (0 : ℚ) < 2 ^ (e - 2) := by positivity

theorem two_zpow_eq_quarter (e : Int) : (2 : ℚ) ^ e = 4 * 2 ^ (e - 2) := by
  rw [zpow_sub₀ two_ne_zero]
  norm_num
  ring

/-- A ratio in the interval of a number is near the number. -/
theorem Rounds.near (h : Rounds x q) (hx : x.mantissa ≠ 0) : Near q x.mantissa x.exponent := by
  have hmantissa : (1 : ℚ) ≤ x.mantissa := by exact_mod_cast Nat.one_le_iff_ne_zero.mpr hx
  have hquarter := quarter_pos x.exponent
  have hlow : (4 * x.mantissa - 2 : ℚ) ≤ (Decimal.intervalOf x).low := by
    have hnat : 4 * x.mantissa - 2 ≤ (Decimal.intervalOf x).low := by
      unfold Decimal.intervalOf
      dsimp only
      split <;> omega
    have hcast : ((4 * x.mantissa - 2 : Nat) : ℚ) = 4 * x.mantissa - 2 := by
      rw [Nat.cast_sub (by omega)]
      push_cast
      ring
    rw [← hcast]
    exact_mod_cast hnat
  have hhigh : ((Decimal.intervalOf x).high : ℚ) = 4 * x.mantissa + 2 := by
    rw [Decimal.intervalOf]
    push_cast
    ring
  have hmul := mul_le_mul_of_nonneg_right hlow hquarter.le
  unfold Rounds at h
  dsimp only at h
  rw [hhigh] at h
  have hpow := two_zpow_eq_quarter x.exponent
  split at h
  · rename_i hclosed
    refine ⟨?_, ?_, fun _ => by simpa [Decimal.intervalOf] using hclosed⟩
    · rw [hpow]
      linarith [h.1]
    · rw [hpow]
      linarith [h.2]
  · refine ⟨?_, ?_, ?_⟩
    · rw [hpow]
      linarith [h.1]
    · rw [hpow]
      linarith [h.2]
    · rw [hpow]
      rintro (heq | heq)
      · linarith [h.1]
      · linarith [h.2]

/-- At a power of two the interval is shorter below. -/
theorem Rounds.le_of_boundary (h : Rounds x q) (hx : x.mantissa = 2 ^ (precision - 1))
    (hleast : leastExponent < x.exponent) :
    (2 ^ precision - 1 / 2) * 2 ^ (x.exponent - 1) ≤ q := by
  have hlow : ((Decimal.intervalOf x).low : ℚ) = 2 * 2 ^ precision - 1 := by
    have hnat : (Decimal.intervalOf x).low = 2 * 2 ^ precision - 1 := by
      unfold Decimal.intervalOf
      dsimp only
      rw [if_pos ⟨hx, hleast⟩, hx]
      rfl
    rw [hnat]
    norm_num [precision]
  have hpow : (2 : ℚ) ^ (x.exponent - 1) = 2 * 2 ^ (x.exponent - 2) := by
    rw [← zpow_one_add₀ two_ne_zero]
    congr 1
    ring
  unfold Rounds at h
  dsimp only at h
  rw [hlow] at h
  rw [hpow]
  split at h
  · linarith [h.1]
  · linarith [h.1]

/-- A ratio is rounded to a number if its exponent and its mantissa are those of the number. -/
theorem ofRatio?_eq (hn : numerator ≠ 0) (hexponent : exponentOf numerator denominator = x.exponent)
    (hmantissa : nearest (scaled numerator denominator x.exponent).1
      (scaled numerator denominator x.exponent).2 = x.mantissa) (hx : Normal x) :
    ofRatio? x.negative numerator denominator = some x := by
  rw [ofRatio?, if_neg hn, hexponent]
  dsimp only
  rw [hmantissa, if_neg hx.small.ne, if_pos hx.greatest]

/-- A ratio that is rounded up to a power of two has the next exponent. -/
theorem ofRatio?_eq_of_carry (hn : numerator ≠ 0)
    (hexponent : exponentOf numerator denominator = x.exponent - 1)
    (hmantissa : nearest (scaled numerator denominator (x.exponent - 1)).1
      (scaled numerator denominator (x.exponent - 1)).2 = 2 ^ precision)
    (hx : x.mantissa = 2 ^ (precision - 1)) (hgreatest : x.exponent ≤ greatestExponent) :
    ofRatio? x.negative numerator denominator = some x := by
  rw [ofRatio?, if_neg hn, hexponent]
  dsimp only
  rw [hmantissa, if_pos rfl, Int.sub_add_cancel, if_pos hgreatest, ← hx]

/-- Below the numbers with the exponent of a number only what is a quarter away is rounded up to it:
the number is the first one with its exponent. -/
theorem ofRatio?_of_rounds_below (hx : Normal x) (hd : denominator ≠ 0) (hn : numerator ≠ 0)
    (hfull : 2 ^ (precision - 1) ≤ x.mantissa) (hleast : leastExponent < x.exponent)
    (h : Rounds x (numerator / denominator)) (hnear : Near (numerator / denominator) x.mantissa
      x.exponent) (hlow : (numerator / denominator : ℚ) < 2 ^ (precision - 1) * 2 ^ x.exponent) :
    ofRatio? x.negative numerator denominator = some x := by
  have hpow : (0 : ℚ) < 2 ^ x.exponent := by positivity
  have hmantissa : x.mantissa = 2 ^ (precision - 1) := by
    by_contra hne
    have hgt : 2 ^ (precision - 1) + 1 ≤ x.mantissa := by omega
    have hgt' : (2 ^ (precision - 1) + 1 : ℚ) ≤ x.mantissa := by exact_mod_cast hgt
    have hlow' := hnear.low
    nlinarith
  have hquarter := h.le_of_boundary hmantissa hleast
  have hhalf : (2 : ℚ) ^ x.exponent = 2 * 2 ^ (x.exponent - 1) := by
    rw [← zpow_one_add₀ two_ne_zero]
    congr 1
    ring
  have hpow' : (0 : ℚ) < 2 ^ (x.exponent - 1) := by positivity
  have hprecision : (2 : ℚ) ^ precision = 2 ^ (precision - 1) * 2 := by
    rw [← pow_succ]
    rfl
  have hlow' : (numerator / denominator : ℚ) < 2 ^ precision * 2 ^ (x.exponent - 1) := by
    rw [hprecision, mul_assoc, ← hhalf]
    exact hlow
  have hfullAt : FullAt (numerator / denominator) (x.exponent - 1) := by
    refine ⟨?_, hlow'⟩
    refine le_trans (mul_le_mul_of_nonneg_right ?_ hpow'.le) hquarter
    norm_num [precision]
  refine ofRatio?_eq_of_carry hn (exponentOf_eq hn hd hfullAt (by omega)) ?_ hmantissa hx.greatest
  refine nearest_of_near hd ⟨?_, ?_, fun _ => by norm_num [precision]⟩
  · push_cast
    exact hquarter
  · push_cast
    nlinarith

/-- Every ratio in the interval of a number is rounded to the number. -/
theorem ofRatio?_of_rounds (hx : Normal x) (hpos : x.mantissa ≠ 0) (hd : denominator ≠ 0)
    (h : Rounds x (numerator / denominator)) :
    ofRatio? x.negative numerator denominator = some x := by
  have hnear := h.near hpos
  have hpow : (0 : ℚ) < 2 ^ x.exponent := by positivity
  have hone : (1 : ℚ) ≤ x.mantissa := by exact_mod_cast Nat.one_le_iff_ne_zero.mpr hpos
  have hn : numerator ≠ 0 := by
    rintro rfl
    have hlow := hnear.low
    rw [Nat.cast_zero, zero_div] at hlow
    nlinarith
  have hsmall : (x.mantissa + 1 : ℚ) ≤ 2 ^ precision := by exact_mod_cast hx.small
  have hbelow : (numerator / denominator : ℚ) < 2 ^ precision * 2 ^ x.exponent := by
    refine lt_of_le_of_lt hnear.high (mul_lt_mul_of_pos_right ?_ hpow)
    linarith
  by_cases hleast : x.exponent = leastExponent
  · refine ofRatio?_eq hn ?_ (nearest_of_near hd hnear) hx
    rw [hleast] at hbelow ⊢
    exact exponentOf_eq_least hn hd hbelow
  · have hfull : 2 ^ (precision - 1) ≤ x.mantissa := hx.full.resolve_left hleast
    have hleast : leastExponent < x.exponent := lt_of_le_of_ne hx.least (Ne.symm hleast)
    by_cases hlow : (2 ^ (precision - 1) * 2 ^ x.exponent : ℚ) ≤ numerator / denominator
    · exact ofRatio?_eq hn (exponentOf_eq hn hd ⟨hlow, hbelow⟩ hleast.le)
        (nearest_of_near hd hnear) hx
    · exact ofRatio?_of_rounds_below hx hd hn hfull hleast h hnear (not_le.mp hlow)

end Interval

section Results

theorem normal_zero (negative : Bool) : Normal (zero negative) := by
  cases negative <;> exact ⟨by decide, .inl rfl, by decide, by decide⟩

/-- What a ratio is rounded to is a number in its normal form. -/
theorem normal_of_ofRatio? (hd : denominator ≠ 0)
    (h : ofRatio? negative numerator denominator = some x) : Normal x := by
  by_cases hn : numerator = 0
  · rw [ofRatio?, if_pos hn] at h
    cases h
    exact normal_zero negative
  · obtain ⟨exact, hexact, hexponent⟩ := exponentOf_cases hn hd
    rw [ofRatio?, if_neg hn] at h
    obtain ⟨e, he⟩ : ∃ e, e = exponentOf numerator denominator := ⟨_, rfl⟩
    rw [← he] at h hexponent
    dsimp only at h
    have hleast : leastExponent ≤ e := by omega
    have hbelow : (scaled numerator denominator e).1 / (scaled numerator denominator e).2 <
        2 ^ precision := by
      rw [div_lt_iff_scaled hd]
      push_cast
      refine lt_of_lt_of_le hexact.2 (mul_le_mul_of_nonneg_left ?_ (by positivity))
      exact zpow_le_zpow_right₀ one_le_two (by omega)
    have hle := nearest_le hbelow
    split at h
    · simp only [Option.ite_none_right_eq_some, Option.some.injEq] at h
      obtain ⟨hgreatest, rfl⟩ := h
      have hcarry : 2 ^ (precision - 1) < 2 ^ precision := by decide
      exact ⟨hcarry, .inr le_rfl, by dsimp only; omega, hgreatest⟩
    · rename_i hne
      simp only [Option.ite_none_right_eq_some, Option.some.injEq] at h
      obtain ⟨hgreatest, rfl⟩ := h
      refine ⟨lt_of_le_of_ne hle hne, ?_, hleast, hgreatest⟩
      by_cases hequal : e = leastExponent
      · exact .inl hequal
      · refine .inr (le_trans ?_ le_nearest)
        have hfull : e = exact := by omega
        rw [← not_lt, div_lt_iff_scaled hd, not_lt, hfull]
        push_cast
        exact hexact.1

theorem normal_of_ofDecimal? {digits : Nat} {power : Int}
    (h : ofDecimal? negative digits power = some x) : Normal x := by
  unfold ofDecimal? at h
  dsimp only at h
  split at h
  · cases h
    exact normal_zero negative
  · split at h
    · cases h
    · split at h
      · exact normal_of_ofRatio? one_ne_zero h
      · exact normal_of_ofRatio? (by positivity) h

end Results

end Binary64
end ComponentCompiler
