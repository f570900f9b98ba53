import ComponentCompiler.Proofs.Text.Base64
import ComponentCompiler.SourceMap.Vlq

/-!
# Numbers of variable length and back

A number is written as digits that carry it and its sign, each with the mark whether more follow.
The digits are read back one by one, so several numbers written one after the other are read as
these numbers (`decode_encodeAll`).
-/

namespace ComponentCompiler.Vlq

open Text

theorem bits_lt_of_mem_digits {n : Nat} {d : Digit} (h : d ∈ digits n) : d.bits < 32 := by
  fun_induction digits n with
  | case1 n hn =>
      rw [List.mem_singleton.mp h]
      exact hn
  | case2 n hn ih =>
      rcases List.mem_cons.mp h with rfl | h
      · exact Nat.mod_lt n (by decide)
      · exact ih h

theorem digits_ne_nil (n : Nat) : digits n ≠ [] := by
  rw [digits]
  split <;> simp

theorem digitsOf_char {d : Digit} (h : d.bits < 32) : digitsOf d.char = [d] := by
  obtain ⟨bits, more⟩ := d
  dsimp only at h
  cases more with
  | false =>
      have hvalue : Base64.value? (Base64.digit bits) = some bits := Base64.value?_digit (by omega)
      simp [digitsOf, Digit.char, hvalue, Nat.mod_eq_of_lt h, h]
  | true =>
      have hvalue : Base64.value? (Base64.digit (bits + 32)) = some (bits + 32) :=
        Base64.value?_digit (by omega)
      simp [digitsOf, Digit.char, hvalue, Nat.mod_eq_of_lt h]

theorem flatMap_digitsOf_char {ds : List Digit} (h : ∀ d ∈ ds, d.bits < 32) :
    (ds.map Digit.char).flatMap digitsOf = ds := by
  induction ds with
  | nil => rfl
  | cons d ds ih =>
      rw [List.map_cons, List.flatMap_cons, digitsOf_char (h d List.mem_cons_self),
        ih fun d hd => h d (List.mem_cons_of_mem _ hd), List.singleton_append]

/-- The digits of a written number are its digits. -/
theorem flatMap_digitsOf_encode (n : Int) : (encode n).flatMap digitsOf = digits (signed n) :=
  flatMap_digitsOf_char fun _ => bits_lt_of_mem_digits

theorem encode_ne_nil (n : Int) : encode n ≠ [] := by
  rw [encode, Ne, List.map_eq_nil_iff]
  exact digits_ne_nil _

/-- A written number consists of digits. -/
theorem exists_of_mem_encode {n : Int} {c : Char} (h : c ∈ encode n) :
    ∃ value < 64, c = Base64.digit value := by
  obtain ⟨d, hd, rfl⟩ := List.mem_map.mp h
  have hbits := bits_lt_of_mem_digits hd
  rw [Digit.char]
  split
  · exact ⟨_, by omega, rfl⟩
  · exact ⟨_, by omega, rfl⟩

/-- The digits of a number are read as its value, moved up by what was read before. -/
theorem numbers_digits (n : Nat) (rest : List Digit) {shift value : Nat} (hshift : shift < 64)
    (hfit : value + n * 2 ^ shift < 2 ^ 63) : numbers (digits n ++ rest) shift value =
      (numbers rest 0 0).map (unsigned (value + n * 2 ^ shift) :: ·) := by
  induction n using digits.induct generalizing shift value with
  | case1 n hn =>
      rw [digits, dif_pos hn, List.singleton_append, numbers, if_neg (by omega),
        Nat.mod_eq_of_lt (by dsimp only; omega)]
      rfl
  | case2 n hn ih =>
      have hsplit : n % 32 * 2 ^ shift + n / 32 * 2 ^ (shift + 5) = n * 2 ^ shift := by
        rw [Nat.pow_add, Nat.mul_comm (2 ^ shift), ← Nat.mul_assoc, ← Nat.add_mul]
        congr 1
        omega
      have hnext : shift + 5 < 64 := by
        rcases Nat.lt_or_ge shift 59 with hsmall | hlarge
        · omega
        · have hpow : 2 ^ 59 ≤ 2 ^ shift := Nat.pow_le_pow_right (by decide) hlarge
          have hmul : 32 * 2 ^ 59 ≤ n * 2 ^ shift := Nat.mul_le_mul (by omega) hpow
          omega
      rw [digits, dif_neg hn, List.cons_append, numbers, if_neg (by omega),
        Nat.mod_eq_of_lt (by dsimp only; omega), if_pos rfl, ih hnext (by dsimp only; omega)]
      rw [Nat.add_assoc, hsplit]

/-- A number is carried with its sign. -/
theorem unsigned_signed {n : Int} (h : n.natAbs < 2 ^ 62) : unsigned (signed n) = n := by
  have hsmall : signed n < 2 ^ 63 := by
    rw [signed]
    split <;> omega
  simp only [unsigned, if_pos hsmall]
  rw [signed]
  split <;> split <;> omega

/-- Several numbers, one after the other. -/
def encodeAll (values : List Int) : List Char := values.flatMap encode

/-- Numbers that were written one after the other are read as these numbers. -/
theorem decode_encodeAll {values : List Int} (hne : values ≠ [])
    (h : ∀ n ∈ values, n.natAbs < 2 ^ 62) : decode (encodeAll values) = .ok values := by
  have hread : numbers ((encodeAll values).flatMap digitsOf) 0 0 = .ok values := by
    clear hne
    induction values with
    | nil => rfl
    | cons n values ih =>
        have hn := h n List.mem_cons_self
        have hfit : 0 + signed n * 2 ^ 0 < 2 ^ 63 := by
          rw [signed]
          split <;> omega
        rw [encodeAll, List.flatMap_cons, List.flatMap_append, flatMap_digitsOf_encode,
          numbers_digits _ _ (by decide) hfit]
        have hrest := ih fun n hn => h n (List.mem_cons_of_mem _ hn)
        rw [encodeAll] at hrest
        rw [hrest, Nat.zero_add, Nat.pow_zero, Nat.mul_one, unsigned_signed hn]
        rfl
  rw [decode, hread]
  obtain ⟨n, rest, rfl⟩ := List.exists_cons_of_ne_nil hne
  rfl

theorem encodeAll_ne_nil {values : List Int} (hne : values ≠ []) : encodeAll values ≠ [] := by
  obtain ⟨n, rest, rfl⟩ := List.exists_cons_of_ne_nil hne
  rw [encodeAll, List.flatMap_cons]
  exact List.append_ne_nil_of_left_ne_nil (encode_ne_nil n) _

/-- Written numbers have no character in them that separates segments or lines. -/
theorem not_mem_encodeAll {values : List Int} {c : Char} (hc : Base64.value? c = none) :
    c ∉ encodeAll values := by
  intro hmem
  obtain ⟨n, -, hn⟩ := List.mem_flatMap.mp hmem
  obtain ⟨value, hvalue, rfl⟩ := exists_of_mem_encode hn
  rw [Base64.value?_digit hvalue] at hc
  cases hc

end ComponentCompiler.Vlq
