import ComponentCompiler.Json.Parser
import ComponentCompiler.Json.Printer
import ComponentCompiler.Proofs.Text.Scan

/-!
# Written numbers

A number is written as a whole part that starts with a zero only if that is all of it, perhaps with
a fraction and an exponent. Before a character that continues no number, a reader takes exactly
what was written (`numeral?_integerChars`, `numeral?_floatChars`).
-/

namespace ComponentCompiler.Json

/-- What follows a number ends it. -/
def Ends (rest : List Char) : Prop :=
  ∀ c ∈ rest.head?, isDigit c = false ∧ c ≠ '.' ∧ c ≠ 'e' ∧ c ≠ 'E'

theorem ends_nil : Ends [] := nofun

theorem ends_cons {c : Char} {rest : List Char}
    (h : isDigit c = false ∧ c ≠ '.' ∧ c ≠ 'e' ∧ c ≠ 'E') : Ends (c :: rest) := by
  intro d hd
  obtain rfl : c = d := by simpa using hd
  exact h

section Readers

variable {run whole fraction power rest : List Char} {negative : Bool}

/-- A run of digits ends where no digit follows. -/
theorem digits?_append (hne : run ≠ []) (hrun : ∀ c ∈ run, isDigit c)
    (hrest : ∀ c ∈ rest.head?, isDigit c = false) : digits? (run ++ rest) = some (run, rest) := by
  have hspan : (run ++ rest).span isDigit = (run, rest) := by
    rw [List.span_eq_takeWhile_dropWhile, List.takeWhile_append_of_pos hrun,
      List.dropWhile_append_of_pos hrun]
    cases rest with
    | nil => simp
    | cons c rest => simp [hrest c rfl]
  rw [digits?, hspan]
  cases run with
  | nil => exact absurd rfl hne
  | cons c run => rfl

/-- A whole part as it is written. -/
structure IsWhole (whole : List Char) : Prop where
  digits : ∀ c ∈ whole, isDigit c
  lead : whole = ['0'] ∨ ∃ c s, whole = c :: s ∧ c ≠ '0'

theorem IsWhole.ne_nil (h : IsWhole whole) : whole ≠ [] := by
  rcases h.lead with rfl | ⟨c, s, rfl, -⟩ <;> simp

theorem wholePart?_append (h : IsWhole whole) (hrest : ∀ c ∈ rest.head?, isDigit c = false) :
    wholePart? (whole ++ rest) = some (whole, rest) := by
  rcases h.lead with rfl | ⟨c, s, rfl, hc⟩
  · rfl
  · rw [← digits?_append h.ne_nil h.digits hrest, List.cons_append, wholePart?]
    intro rest' heq
    exact hc (List.cons.inj heq).1

theorem fraction?_of_ne (h : '.' ∉ rest.head?) : fraction? rest = some ([], rest) := by
  unfold fraction?
  split
  · simp at h
  · rfl

theorem exponent?_of_ne (h : ∀ c ∈ rest.head?, c ≠ 'e' ∧ c ≠ 'E') :
    exponent? rest = some (none, rest) := by
  cases rest with
  | nil => rfl
  | cons c rest =>
      obtain ⟨he, hE⟩ := h c rfl
      simp [exponent?, he, hE]

/-- The power of ten of an exponent with its sign. -/
def signedPower (sign : Char) (power : List Char) : Int :=
  if sign = '-' then -naturalOf power else naturalOf power

theorem exponent?_append (hne : power ≠ []) (hpower : ∀ c ∈ power, isDigit c)
    (hrest : ∀ c ∈ rest.head?, isDigit c = false) {sign : Char} (hsign : sign = '-' ∨ sign = '+') :
    exponent? ('e' :: sign :: (power ++ rest)) = some (some (signedPower sign power), rest) := by
  rcases hsign with rfl | rfl <;>
    simp [exponent?, digits?_append hne hpower hrest, signedPower]

theorem Ends.digit (h : Ends rest) : ∀ c ∈ rest.head?, isDigit c = false :=
  fun c hc => (h c hc).1

theorem Ends.exponent (h : Ends rest) : exponent? rest = some (none, rest) :=
  exponent?_of_ne fun c hc => (h c hc).2.2

theorem unsigned?_whole (h : IsWhole whole) (hrest : Ends rest) :
    unsigned? negative (whole ++ rest) = some (⟨negative, whole, [], none⟩, rest) := by
  have hfraction : fraction? rest = some ([], rest) :=
    fraction?_of_ne fun hc => (hrest _ hc).2.1 rfl
  simp [unsigned?, wholePart?_append h hrest.digit, hfraction, hrest.exponent]

theorem unsigned?_fraction (h : IsWhole whole) (hne : fraction ≠ [])
    (hdigits : ∀ c ∈ fraction, isDigit c) (hrest : Ends rest) :
    unsigned? negative (whole ++ '.' :: (fraction ++ rest)) =
      some (⟨negative, whole, fraction, none⟩, rest) := by
  have hpoint : ∀ c ∈ ('.' :: (fraction ++ rest)).head?, isDigit c = false := by
    intro c hc
    obtain rfl : '.' = c := by simpa using hc
    rfl
  have hfraction : fraction? ('.' :: (fraction ++ rest)) = some (fraction, rest) :=
    digits?_append hne hdigits hrest.digit
  simp [unsigned?, wholePart?_append h hpoint, hfraction, hrest.exponent]

/-- A number with an exponent, with or without a fraction. -/
theorem unsigned?_scientific (negative : Bool) (h : IsWhole whole)
    (hdigits : ∀ c ∈ fraction, isDigit c) (hne : power ≠ []) (hpower : ∀ c ∈ power, isDigit c)
    {sign : Char}
    (hsign : sign = '-' ∨ sign = '+') (hrest : Ends rest) :
    unsigned? negative (whole ++ ((if fraction = [] then [] else '.' :: fraction) ++
        'e' :: sign :: (power ++ rest))) =
      some (⟨negative, whole, fraction, some (signedPower sign power)⟩, rest) := by
  have hexponent := exponent?_append hne hpower hrest.digit hsign
  have hmark : ∀ c ∈ ('e' :: sign :: (power ++ rest)).head?, isDigit c = false := by
    intro c hc
    obtain rfl : 'e' = c := by simpa using hc
    rfl
  by_cases hfraction : fraction = []
  · have hnone : fraction? ('e' :: sign :: (power ++ rest)) =
        some ([], 'e' :: sign :: (power ++ rest)) := fraction?_of_ne (by simp)
    simp [unsigned?, hfraction, wholePart?_append h hmark, hnone, hexponent]
  · have hpoint : ∀ c ∈ ('.' :: (fraction ++ 'e' :: sign :: (power ++ rest))).head?,
        isDigit c = false := by
      intro c hc
      obtain rfl : '.' = c := by simpa using hc
      rfl
    have hsome : fraction? ('.' :: (fraction ++ 'e' :: sign :: (power ++ rest))) =
        some (fraction, 'e' :: sign :: (power ++ rest)) := digits?_append hfraction hdigits hmark
    simp [unsigned?, hfraction, wholePart?_append h hpoint, hsome, hexponent]

theorem numeral?_unsigned (h : IsWhole whole) (s : List Char) :
    numeral? (whole ++ s) = unsigned? false (whole ++ s) := by
  obtain ⟨c, t, rfl⟩ := List.exists_cons_of_ne_nil h.ne_nil
  have hc := h.digits c List.mem_cons_self
  rw [List.cons_append, numeral?]
  intro rest heq
  obtain ⟨rfl, -⟩ := List.cons.inj heq
  cases hc

end Readers

section Digits

theorem isDigit_of_mem_toDigits {n : Nat} {c : Char} (h : c ∈ Nat.toDigits 10 n) : isDigit c :=
  Nat.isDigit_of_mem_toDigits (by decide) (by decide) h

/-- The digits of a number start with a zero only if that is the number. -/
theorem lead_toDigits {n : Nat} (hn : n ≠ 0) : ∃ c s, Nat.toDigits 10 n = c :: s ∧ c ≠ '0' := by
  induction n using Nat.strongRecOn with
  | ind n ih =>
      by_cases hlt : n < 10
      · refine ⟨n.digitChar, [], Nat.toDigits_of_lt_base hlt, ?_⟩
        have hdigit : ∀ m, m < 10 → m ≠ 0 → Nat.digitChar m ≠ '0' := by decide
        exact hdigit n hlt hn
      · obtain ⟨c, s, hdigits, hc⟩ := ih (n / 10) (by omega) (by omega)
        rw [Nat.toDigits_of_base_le (by decide) (by omega), hdigits]
        exact ⟨c, _, rfl, hc⟩

theorem isWhole_toDigits (n : Nat) : IsWhole (Nat.toDigits 10 n) := by
  refine ⟨fun c => isDigit_of_mem_toDigits, ?_⟩
  by_cases hn : n = 0
  · rw [hn]
    exact .inl rfl
  · exact .inr (lead_toDigits hn)

theorem numeral?_integerChars (i : Int) : ∃ n, ∀ rest, Ends rest →
    numeral? (integerChars i ++ rest) = some (n, rest) := by
  have hwhole := isWhole_toDigits i.natAbs
  unfold integerChars
  split
  · exact ⟨_, fun rest hrest => unsigned?_whole hwhole hrest⟩
  · refine ⟨⟨false, Nat.toDigits 10 i.natAbs, [], none⟩, fun rest hrest => ?_⟩
    rw [numeral?_unsigned hwhole, unsigned?_whole hwhole hrest]

theorem lead_integerChars (i : Int) :
    ∃ c t, integerChars i = c :: t ∧ (isDigit c ∨ c = '-') := by
  have hwhole := isWhole_toDigits i.natAbs
  unfold integerChars
  split
  · exact ⟨_, _, rfl, .inr rfl⟩
  · obtain ⟨c, t, hcons⟩ := List.exists_cons_of_ne_nil hwhole.ne_nil
    exact ⟨c, t, hcons, .inl (hwhole.digits c (by simp [hcons]))⟩

end Digits

section Floats

open Decimal

variable {x : Binary64} {power : Int} {digits : Nat}

/-- Zero is not among the reals that round to a number other than zero. -/
theorem not_holds_zero (hx : x.mantissa ≠ 0) (exponent power : Int) :
    (intervalOf x).holds exponent 0 power = false := by
  have hlow : 0 < (intervalOf x).low := by
    unfold intervalOf
    dsimp only
    split <;> omega
  have hpos : 0 < (crossed 0 power (intervalOf x).low exponent).2 :=
    Nat.mul_pos (Nat.mul_pos hlow (Nat.two_pow_pos _)) (Nat.pow_pos (by decide))
  have hzero : (crossed 0 power (intervalOf x).low exponent).1 = 0 := by simp [crossed]
  unfold Interval.holds
  dsimp only
  split
  · rw [hzero, decide_eq_false (by omega), Bool.false_and]
  · rw [hzero, decide_eq_false (by omega), Bool.false_and]

theorem neighbour?_ne_zero (hx : x.mantissa ≠ 0) (h : neighbour? x power = some digits) :
    digits ≠ 0 := by
  have hlower : ∀ {n : Nat}, (intervalOf x).holds (x.exponent - 2) n power = true → n ≠ 0 := by
    rintro n hn rfl
    rw [not_holds_zero hx] at hn
    cases hn
  unfold neighbour? at h
  dsimp only at h
  split at h
  · cases h
  · rename_i hholds _
    cases h
    exact hlower hholds
  · cases h
    exact Nat.succ_ne_zero _
  · rename_i hholds _
    have hbelow := hlower hholds
    split at h
    · cases h
      exact hbelow
    · split at h
      · cases h
        exact Nat.succ_ne_zero _
      · cases h
        exact (Nat.lt_of_lt_of_le (Nat.pos_of_ne_zero hbelow) (Nat.le_add_right _ _)).ne'

theorem strip_digits_ne_zero {d : Decimal.Numeral} (hd : d.digits ≠ 0) (fuel : Nat) :
    (d.strip fuel).digits ≠ 0 := by
  induction fuel generalizing d with
  | zero => exact hd
  | succ fuel ih =>
      rw [Numeral.strip]
      split
      · rename_i hlast
        exact ih (d := ⟨d.digits / 10, d.power + 1⟩) (by dsimp only; omega)
      · exact hd

theorem strip_zero (fuel : Nat) : Numeral.strip fuel ⟨0, 0⟩ = ⟨0, 0⟩ := by
  cases fuel <;> rfl

/-- The shortest decimal of a number has digits, or is zero without any power. -/
theorem shortest_cases (x : Binary64) : shortest x = ⟨0, 0⟩ ∨ (shortest x).digits ≠ 0 := by
  unfold shortest
  split
  · exact .inl rfl
  · rename_i hx
    dsimp only
    generalize hfound : List.findSome? _ _ = found
    cases found with
    | none => exact .inl (strip_zero 20)
    | some d =>
        obtain ⟨places, -, hplaces⟩ := List.exists_of_findSome?_eq_some hfound
        obtain ⟨digits, hdigits, rfl⟩ := Option.map_eq_some_iff.mp hplaces
        exact .inr (strip_digits_ne_zero (neighbour?_ne_zero hx hdigits) 20)

/-- A part of the digits of a decimal that starts with the first one is a whole part. -/
theorem isWhole_of_lead {n : Nat} {whole : List Char} (hn : n ≠ 0)
    (hdigits : ∀ c ∈ whole, isDigit c) (hlead : whole.head? = (Nat.toDigits 10 n).head?) :
    IsWhole whole := by
  obtain ⟨c, s, hcons, hc⟩ := lead_toDigits hn
  rw [hcons] at hlead
  obtain ⟨t, rfl⟩ := List.head?_eq_some_iff.mp hlead
  exact ⟨hdigits, .inr ⟨c, t, rfl, hc⟩⟩

theorem isDigit_of_mem_replicate {n : Nat} {c : Char} (h : c ∈ List.replicate n '0') :
    isDigit c := by
  rw [List.eq_of_mem_replicate h]
  rfl

theorem naturalOf_append (s t : List Char) :
    naturalOf (s ++ t) = naturalOf s * 10 ^ t.length + naturalOf t := by
  have hfold : ∀ (t : List Char) (n : Nat), t.foldl (fun n c => 10 * n + digitValue c) n =
      n * 10 ^ t.length + naturalOf t := by
    intro t
    induction t with
    | nil => exact fun n => by simp [naturalOf]
    | cons c t ih =>
        intro n
        have hcons : naturalOf (c :: t) = digitValue c * 10 ^ t.length + naturalOf t := by
          rw [naturalOf, List.foldl_cons, ih, Nat.mul_zero, Nat.zero_add]
        rw [List.foldl_cons, ih, hcons, List.length_cons, Nat.pow_succ, Nat.add_mul,
          Nat.mul_comm 10 n, Nat.mul_assoc, Nat.mul_comm 10, Nat.add_assoc]
  rw [naturalOf, List.foldl_append, hfold]
  rfl

theorem naturalOf_zeros (count : Nat) : naturalOf (List.replicate count '0') = 0 := by
  induction count with
  | zero => rfl
  | succ count ih => exact ih

theorem naturalOf_toDigits (n : Nat) : naturalOf (Nat.toDigits 10 n) = n :=
  Nat.ofDigitChars_toDigits (by decide) (by decide)

/-- A number that is read is a decimal with its sign, perhaps with zeros after its digits, and it is
written so that it is no integer. -/
structure Numeral.Tells (n : Numeral) (negative : Bool) (d : Decimal.Numeral) : Prop where
  negative : n.negative = negative
  inexact : n.fraction ≠ [] ∨ n.power ≠ none
  zeros : ∃ count : Nat, naturalOf (n.whole ++ n.fraction) = d.digits * 10 ^ count ∧
    n.power.getD 0 - n.fraction.length = d.power - count

/-- The digits of a decimal with zeros after them are a whole part, also if the decimal is zero. -/
theorem isWhole_digits_zeros {d : Decimal.Numeral} (hd : d = ⟨0, 0⟩ ∨ d.digits ≠ 0) :
    IsWhole (d.digitChars ++ List.replicate d.power.toNat '0') := by
  rcases hd with rfl | hd
  · exact isWhole_toDigits 0
  · refine isWhole_of_lead hd (fun c hc => ?_) ?_
    · rcases List.mem_append.mp hc with hc | hc
      · exact isDigit_of_mem_toDigits hc
      · exact isDigit_of_mem_replicate hc
    · obtain ⟨c, s, hcons, -⟩ := lead_toDigits hd
      rw [Decimal.Numeral.digitChars, hcons]
      rfl

/-- A number with a point in it is read as the decimal that has its digits. -/
theorem exists_pointed {d : Decimal.Numeral} {whole fraction : List Char} {count : Nat}
    (negative : Bool) (hwhole : IsWhole whole) (hne : fraction ≠ [])
    (hfraction : ∀ c ∈ fraction, isDigit c)
    (hdigits : naturalOf (whole ++ fraction) = d.digits * 10 ^ count)
    (hplaces : -(fraction.length : Int) = d.power - count) :
    ∃ n : Numeral, n.Tells negative d ∧
      ∀ rest, Ends rest →
        unsigned? negative (whole ++ '.' :: fraction ++ rest) = some (n, rest) := by
  refine ⟨⟨negative, whole, fraction, none⟩, ⟨rfl, .inl hne, count, hdigits, ?_⟩,
    fun rest hrest => ?_⟩
  · dsimp only [Option.getD_none]
    omega
  · rw [List.append_assoc, List.cons_append]
    exact unsigned?_fraction hwhole hne hfraction hrest

/-- What is written of a decimal starts with a whole part, and is read as the decimal. -/
theorem exists_positional (d : Decimal.Numeral) (hd : d = ⟨0, 0⟩ ∨ d.digits ≠ 0)
    (negative : Bool) : ∃ (whole fraction : List Char) (n : Numeral), IsWhole whole ∧
      positional d ['.', '0'] = whole ++ fraction ∧ n.Tells negative d ∧
      ∀ rest, Ends rest → unsigned? negative (whole ++ fraction ++ rest) = some (n, rest) := by
  have hmem : ∀ c ∈ d.digitChars, isDigit c := fun c => isDigit_of_mem_toDigits
  have hdigitChars : naturalOf d.digitChars = d.digits := naturalOf_toDigits d.digits
  unfold positional
  dsimp only
  split
  · rename_i hpower
    have hwhole := isWhole_digits_zeros hd
    have hdigits : naturalOf (d.digitChars ++ List.replicate d.power.toNat '0' ++ ['0']) =
        d.digits * 10 ^ (d.power.toNat + 1) := by
      rw [naturalOf_append, naturalOf_append, hdigitChars, naturalOf_zeros, List.length_replicate,
        Nat.pow_succ]
      exact Nat.mul_assoc _ _ _
    have hplaces : -((['0'].length : Nat) : Int) = d.power - (d.power.toNat + 1 : Nat) := by
      rw [List.length_singleton]
      omega
    obtain ⟨n, htells, hread⟩ := exists_pointed negative hwhole (List.cons_ne_nil _ _)
      (List.forall_mem_singleton.mpr (by decide)) hdigits hplaces
    exact ⟨_, _, n, hwhole, rfl, htells, hread⟩
  · rename_i hpower
    have hdigits : d.digits ≠ 0 := by
      rcases hd with rfl | hd
      · exact absurd (Int.le_refl 0) hpower
      · exact hd
    split
    · rename_i hplaces
      have hwhole : IsWhole (d.digitChars.take (d.digitChars.length - (-d.power).toNat)) := by
        refine isWhole_of_lead hdigits (fun c hc => hmem c (List.mem_of_mem_take hc)) ?_
        rw [List.head?_take, if_neg (by omega)]
        rfl
      have hne : d.digitChars.drop (d.digitChars.length - (-d.power).toNat) ≠ [] := by
        rw [Ne, List.drop_eq_nil_iff]
        omega
      obtain ⟨n, htells, hread⟩ := exists_pointed negative hwhole hne
        (fun c hc => hmem c (List.mem_of_mem_drop hc))
        (by rw [List.take_append_drop, hdigitChars, Nat.pow_zero, Nat.mul_one])
        (by rw [List.length_drop]; omega)
      exact ⟨_, _, n, hwhole, rfl, htells, hread⟩
    · rename_i hplaces
      have hfraction : ∀ c ∈ List.replicate ((-d.power).toNat - d.digitChars.length) '0' ++
          d.digitChars, isDigit c := by
        intro c hc
        rcases List.mem_append.mp hc with hc | hc
        · exact isDigit_of_mem_replicate hc
        · exact hmem c hc
      have hvalue : naturalOf (['0'] ++ (List.replicate ((-d.power).toNat - d.digitChars.length) '0'
          ++ d.digitChars)) = d.digits * 10 ^ 0 := by
        have hzero : naturalOf ['0'] = 0 := rfl
        rw [naturalOf_append, naturalOf_append, hdigitChars, naturalOf_zeros, hzero]
        omega
      have hne : List.replicate ((-d.power).toNat - d.digitChars.length) '0' ++ d.digitChars ≠ [] :=
        List.append_ne_nil_of_right_ne_nil _ Nat.toDigits_ne_nil
      obtain ⟨n, htells, hread⟩ := exists_pointed negative (isWhole_toDigits 0) hne hfraction hvalue
        (by rw [List.length_append, List.length_replicate]; omega)
      exact ⟨['0'], _, n, isWhole_toDigits 0, rfl, htells, hread⟩

theorem exists_scientific (d : Decimal.Numeral) (negative : Bool) :
    ∃ (whole s : List Char) (n : Numeral), IsWhole whole ∧ scientific d = whole ++ s ∧
      n.Tells negative d ∧
      ∀ rest, Ends rest → unsigned? negative (whole ++ s ++ rest) = some (n, rest) := by
  have hne : Nat.toDigits 10 d.digits ≠ [] := Nat.toDigits_ne_nil
  obtain ⟨lead, fraction, hcons⟩ := List.exists_cons_of_ne_nil hne
  have hmem : ∀ c ∈ lead :: fraction, isDigit c := by
    rw [← hcons]
    exact fun c => isDigit_of_mem_toDigits
  have hwhole : IsWhole [lead] := by
    refine ⟨fun c hc => hmem c (by simp_all), ?_⟩
    by_cases hzero : lead = '0'
    · exact .inl (by rw [hzero])
    · exact .inr ⟨lead, [], rfl, hzero⟩
  have hchars : d.digitChars = lead :: fraction := hcons
  obtain ⟨exponent, hexponent⟩ : ∃ n : Int, n = d.power + d.digitChars.length - 1 := ⟨_, rfl⟩
  obtain ⟨sign, hsign⟩ : ∃ c, c = if exponent < 0 then '-' else '+' := ⟨_, rfl⟩
  have htext : scientific d = [lead] ++ ((if fraction = [] then [] else '.' :: fraction) ++
      'e' :: sign :: Nat.toDigits 10 exponent.natAbs) := by
    rw [hsign, hexponent, scientific, hchars]
    cases fraction <;> rfl
  have hsigns : sign = '-' ∨ sign = '+' := by
    rw [hsign]
    split
    · exact .inl rfl
    · exact .inr rfl
  have hpower : signedPower sign (Nat.toDigits 10 exponent.natAbs) = exponent := by
    rw [signedPower, naturalOf_toDigits, hsign]
    by_cases hneg : exponent < 0
    · rw [if_pos hneg, if_pos rfl]
      omega
    · rw [if_neg hneg, if_neg (by decide)]
      omega
  refine ⟨[lead], _, ⟨negative, [lead], fraction, some (signedPower sign
    (Nat.toDigits 10 exponent.natAbs))⟩, hwhole, htext,
    ⟨rfl, .inr (Option.some_ne_none _), 0, ?_, ?_⟩,
    fun rest hrest => ?_⟩
  · dsimp only
    rw [List.singleton_append, ← hcons, naturalOf_toDigits, Nat.pow_zero, Nat.mul_one]
  · dsimp only [Option.getD_some]
    rw [hpower, hexponent, hchars, List.length_cons]
    omega
  · rw [List.append_assoc, List.append_assoc]
    exact unsigned?_scientific negative hwhole (fun c hc => hmem c (List.mem_cons_of_mem _ hc))
      Nat.toDigits_ne_nil (fun c => isDigit_of_mem_toDigits) hsigns hrest

/-- What is written of a floating-point number after its sign. -/
theorem exists_floatChars (x : Binary64) : ∃ (whole s : List Char) (n : Numeral),
    IsWhole whole ∧ floatChars x = (if x.negative then ['-'] else []) ++ (whole ++ s) ∧
      n.Tells x.negative (shortest x) ∧
      ∀ rest, Ends rest → unsigned? x.negative (whole ++ s ++ rest) = some (n, rest) := by
  have hmagnitude : ∃ (whole s : List Char) (n : Numeral), IsWhole whole ∧
      (if x.mantissa = 0 || isPositional (shortest x) then positional (shortest x) ['.', '0']
        else scientific (shortest x)) = whole ++ s ∧ n.Tells x.negative (shortest x) ∧
      ∀ rest, Ends rest → unsigned? x.negative (whole ++ s ++ rest) = some (n, rest) := by
    split
    · exact exists_positional _ (shortest_cases x) _
    · exact exists_scientific _ _
  obtain ⟨whole, s, n, hwhole, htext, htells, hread⟩ := hmagnitude
  refine ⟨whole, s, n, hwhole, ?_, htells, hread⟩
  unfold floatChars
  dsimp only
  rw [htext]
  cases x.negative <;> rfl

/-- What is written of a floating-point number is read as its shortest decimal, and nothing after
it. -/
theorem exists_numeral?_floatChars (x : Binary64) : ∃ n : Numeral, n.Tells x.negative (shortest x) ∧
    ∀ rest, Ends rest → numeral? (floatChars x ++ rest) = some (n, rest) := by
  obtain ⟨whole, s, n, hwhole, htext, htells, hread⟩ := exists_floatChars x
  refine ⟨n, htells, fun rest hrest => ?_⟩
  rw [htext]
  cases hnegative : x.negative with
  | false =>
      rw [hnegative] at hread
      simp only [Bool.false_eq_true, if_false, List.nil_append]
      rw [List.append_assoc, numeral?_unsigned hwhole, ← List.append_assoc, hread rest hrest]
  | true =>
      rw [hnegative] at hread
      exact hread rest hrest

theorem numeral?_floatChars (x : Binary64) : ∃ n, ∀ rest, Ends rest →
    numeral? (floatChars x ++ rest) = some (n, rest) := by
  obtain ⟨n, -, hread⟩ := exists_numeral?_floatChars x
  exact ⟨n, hread⟩

/-- What is written of a number starts with a digit or a sign. -/
theorem lead_floatChars (x : Binary64) :
    ∃ c t, floatChars x = c :: t ∧ (isDigit c ∨ c = '-') := by
  obtain ⟨whole, s, n, hwhole, htext, -, -⟩ := exists_floatChars x
  obtain ⟨c, t, rfl⟩ := List.exists_cons_of_ne_nil hwhole.ne_nil
  rw [htext]
  cases x.negative with
  | false => exact ⟨c, t ++ s, rfl, .inl (hwhole.digits c List.mem_cons_self)⟩
  | true => exact ⟨'-', _, rfl, .inr rfl⟩

end Floats

end ComponentCompiler.Json
