import ComponentCompiler.Text.Base64

/-!
# Base64 and back

What was encoded is decoded to the same bytes (`decode?_encode`), and the digits are letters,
numbers and two signs, so encoded bytes are one word (`exists_of_mem_encode`).
-/

namespace ComponentCompiler.Text.Base64

theorem value?_digit {n : Nat} (h : n < 64) : value? (digit n) = some n := by
  revert n
  decide

theorem digit_ne_padding {n : Nat} (h : n < 64) : digit n ≠ '=' := by
  revert n
  decide

/-- The first byte of two digits. -/
theorem byte_of_first (a b : UInt8) :
    UInt8.ofNat (a.toNat / 4 * 4 + (a.toNat % 4 * 16 + b.toNat / 16) / 16) = a := by
  have hb := b.toNat_lt
  rw [show a.toNat / 4 * 4 + (a.toNat % 4 * 16 + b.toNat / 16) / 16 = a.toNat by omega]
  exact UInt8.ofNat_toNat

/-- The second byte of three digits. -/
theorem byte_of_second (a b c : UInt8) :
    UInt8.ofNat ((a.toNat % 4 * 16 + b.toNat / 16) % 16 * 16 +
      (b.toNat % 16 * 4 + c.toNat / 64) / 4) = b := by
  have hb := b.toNat_lt
  have hc := c.toNat_lt
  rw [show (a.toNat % 4 * 16 + b.toNat / 16) % 16 * 16 +
    (b.toNat % 16 * 4 + c.toNat / 64) / 4 = b.toNat by omega]
  exact UInt8.ofNat_toNat

/-- The third byte of four digits. -/
theorem byte_of_third (b c : UInt8) :
    UInt8.ofNat ((b.toNat % 16 * 4 + c.toNat / 64) % 4 * 64 + c.toNat % 64) = c := by
  have hc := c.toNat_lt
  rw [show (b.toNat % 16 * 4 + c.toNat / 64) % 4 * 64 + c.toNat % 64 = c.toNat by omega]
  exact UInt8.ofNat_toNat

/-- Four digits are three bytes, whatever follows them. -/
theorem decode?_digits {a b c d : Nat} (ha : a < 64) (hb : b < 64) (hc : c < 64) (hd : d < 64)
    (rest : List Char) : decode? (digit a :: digit b :: digit c :: digit d :: rest) =
      (decode? rest).map fun bytes => UInt8.ofNat (a * 4 + b / 16) ::
        UInt8.ofNat (b % 16 * 16 + c / 4) :: UInt8.ofNat (c % 4 * 64 + d) :: bytes := by
  rw [decode?, value?_digit ha, value?_digit hb, value?_digit hc, value?_digit hd]
  · cases decode? rest <;> rfl
  · intro hpadding
    exact absurd hpadding (digit_ne_padding hc)
  · intro hpadding
    exact absurd hpadding (digit_ne_padding hd)

/-- Encoded bytes are decoded. -/
theorem decode?_encode : (bytes : List UInt8) → decode? (encode bytes) = some bytes
  | [] => rfl
  | [a] => by
      have ha := a.toNat_lt
      have hbyte := byte_of_first a 0
      simp only [UInt8.toNat_zero, Nat.zero_div, Nat.add_zero] at hbyte
      simp only [encode, decode?, value?_digit (show a.toNat / 4 < 64 by omega),
        value?_digit (show a.toNat % 4 * 16 < 64 by omega), Option.bind_eq_bind, Option.bind_some,
        Nat.mul_mod_left, if_true, hbyte]
      rfl
  | [a, b] => by
      have ha := a.toNat_lt
      have hb := b.toNat_lt
      have hfirst := byte_of_first a b
      have hsecond := byte_of_second a b 0
      simp only [UInt8.toNat_zero, Nat.zero_div, Nat.add_zero] at hsecond
      have hlast : digit (b.toNat % 16 * 4) ≠ '=' := digit_ne_padding (by omega)
      rw [encode, decode?, value?_digit (by omega), value?_digit (by omega),
        value?_digit (by omega)]
      · simp only [Option.bind_eq_bind, Option.bind_some, Nat.mul_mod_left, if_true, hfirst,
          hsecond]
        rfl
      · exact hlast
  | a :: b :: c :: rest => by
      have ha := a.toNat_lt
      have hb := b.toNat_lt
      have hc := c.toNat_lt
      rw [encode, decode?_digits (by omega) (by omega) (by omega) (by omega), decode?_encode rest,
        Option.map_some, byte_of_first, byte_of_second, byte_of_third]

/-- The characters of encoded bytes. -/
theorem exists_of_mem_encode : {bytes : List UInt8} → {c : Char} → c ∈ encode bytes →
    c = '=' ∨ ∃ n < 64, c = digit n
  | [a], c, h => by
      have ha := a.toNat_lt
      simp only [encode, List.mem_cons, List.not_mem_nil, or_false] at h
      rcases h with rfl | rfl | rfl | rfl
      · exact .inr ⟨_, by omega, rfl⟩
      · exact .inr ⟨_, by omega, rfl⟩
      · exact .inl rfl
      · exact .inl rfl
  | [a, b], c, h => by
      have ha := a.toNat_lt
      have hb := b.toNat_lt
      simp only [encode, List.mem_cons, List.not_mem_nil, or_false] at h
      rcases h with rfl | rfl | rfl | rfl
      · exact .inr ⟨_, by omega, rfl⟩
      · exact .inr ⟨_, by omega, rfl⟩
      · exact .inr ⟨_, by omega, rfl⟩
      · exact .inl rfl
  | x :: y :: z :: rest, c, h => by
      have hx := x.toNat_lt
      have hy := y.toNat_lt
      have hz := z.toNat_lt
      simp only [encode, List.mem_cons] at h
      rcases h with rfl | rfl | rfl | rfl | h
      · exact .inr ⟨_, by omega, rfl⟩
      · exact .inr ⟨_, by omega, rfl⟩
      · exact .inr ⟨_, by omega, rfl⟩
      · exact .inr ⟨_, by omega, rfl⟩
      · exact exists_of_mem_encode h

end ComponentCompiler.Text.Base64
