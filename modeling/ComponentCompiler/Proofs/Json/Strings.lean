import ComponentCompiler.Json.Parser
import ComponentCompiler.Json.Printer

/-!
# Quoted strings

A quoted string is read as the text that was quoted, whatever follows it (`string?_quoted`), also
where it is only passed over.
-/

namespace ComponentCompiler.Json

/-- The escape of a character is a letter of its own, a number, or not there. -/
theorem escapeChar_cases (c : Char) :
    (∃ letter, escapeChar c = ['\\', letter] ∧
        ∀ t, escaped? (letter :: t) = some (c, t) ∧ afterEscape? (letter :: t) = some t) ∨
      (∃ a b, escapeChar c = ['\\', 'u', '0', '0', a, b] ∧
        ∀ t, escapedUnit? ('0' :: '0' :: a :: b :: t) = some (c, t) ∧
          (unit? ('0' :: '0' :: a :: b :: t)).map (·.2) = some t) ∨
      escapeChar c = [c] ∧ c ≠ '"' ∧ c ≠ '\\' ∧ ¬c.toNat < 0x20 := by
  unfold escapeChar
  cases hfind : shortEscapes.find? fun entry => entry.1 == c with
  | some entry =>
      obtain ⟨k, letter⟩ := entry
      obtain rfl : k = c := by simpa using List.find?_some hfind
      refine .inl ⟨letter, rfl, ?_⟩
      have hmem := List.mem_of_find?_eq_some hfind
      have hall : ∀ entry ∈ shortEscapes, ∀ t, escaped? (entry.2 :: t) = some (entry.1, t) ∧
          afterEscape? (entry.2 :: t) = some t := by
        intro entry hentry t
        simp only [shortEscapes, List.mem_cons, List.not_mem_nil, or_false] at hentry
        rcases hentry with rfl | rfl | rfl | rfl | rfl | rfl | rfl <;> exact ⟨rfl, rfl⟩
      exact hall _ hmem
  | none =>
      rw [List.find?_eq_none] at hfind
      dsimp only
      split
      · rename_i hcontrol
        refine .inr (.inl ⟨_, _, rfl, fun t => ?_⟩)
        have hhex : ∀ n, n < 16 → hexValue? (hexDigit n) = some n := by decide
        have hhigh := hhex (c.toNat / 16) (by omega)
        have hlow := hhex (c.toNat % 16) (by omega)
        have hunit : unit? ('0' :: '0' :: hexDigit (c.toNat / 16) :: hexDigit (c.toNat % 16) :: t) =
            some (c.toNat, t) := by
          have hzero : hexValue? '0' = some 0 := rfl
          have hsum : ((0 * 16 + 0) * 16 + c.toNat / 16) * 16 + c.toNat % 16 = c.toNat := by omega
          simp only [unit?, hzero, hhigh, hlow, Option.pure_def, Option.bind_eq_bind,
            Option.bind_some, hsum]
        constructor
        · have hsmall : ¬(0xD800 ≤ c.toNat) := by omega
          have hsmall' : ¬(0xDC00 ≤ c.toNat) := by omega
          simp [escapedUnit?, hunit, hsmall, hsmall', Char.ofNat_toNat]
        · rw [hunit]
          rfl
      · rename_i hprinted
        refine .inr (.inr ⟨rfl, ?_, ?_, hprinted⟩)
        · rintro rfl
          exact hfind ('"', '"') (by decide) rfl
        · rintro rfl
          exact hfind ('\\', '\\') (by decide) rfl

/-- The escape of a character is read as the character. -/
theorem stringBody?_escapeChar (fuel : Nat) (c : Char) (t : List Char) :
    stringBody? (fuel + 1) (escapeChar c ++ t) =
      (stringBody? fuel t).map fun found => (c :: found.1, found.2) := by
  rcases escapeChar_cases c with ⟨letter, hescape, hread⟩ | ⟨a, b, hescape, hread⟩ |
    ⟨hescape, hquote, hslash, hprinted⟩
  · rw [hescape, List.cons_append, List.cons_append, List.nil_append, stringBody?,
      (hread t).1]
    cases hbody : stringBody? fuel t <;> simp [hbody]
  · have hescaped : escaped? ('u' :: '0' :: '0' :: a :: b :: t) = some (c, t) := (hread t).1
    simp only [hescape, List.cons_append, List.nil_append]
    rw [stringBody?, hescaped]
    cases hbody : stringBody? fuel t <;> simp [hbody]
  · rw [hescape, List.singleton_append, stringBody?, if_neg hprinted]
    · cases stringBody? fuel t <;> simp
    · exact hquote
    · exact hslash

theorem afterString?_escapeChar (fuel : Nat) (c : Char) (t : List Char) :
    afterString? (fuel + 1) (escapeChar c ++ t) = afterString? fuel t := by
  rcases escapeChar_cases c with ⟨letter, hescape, hread⟩ | ⟨a, b, hescape, hread⟩ |
    ⟨hescape, hquote, hslash, hprinted⟩
  · rw [hescape, List.cons_append, List.cons_append, List.nil_append, afterString?,
      (hread t).2]
    rfl
  · have hafter : afterEscape? ('u' :: '0' :: '0' :: a :: b :: t) = some t := (hread t).2
    simp only [hescape, List.cons_append, List.nil_append]
    rw [afterString?, hafter]
    rfl
  · rw [hescape, List.singleton_append, afterString?, if_neg hprinted]
    · exact hquote
    · exact hslash

theorem stringBody?_quoted {s : List Char} {fuel : Nat} (h : s.length < fuel) (t : List Char) :
    stringBody? fuel (s.flatMap escapeChar ++ '"' :: t) = some (s, t) := by
  induction s generalizing fuel with
  | nil =>
      obtain ⟨fuel, rfl⟩ := Nat.exists_eq_add_one_of_ne_zero (Nat.ne_of_gt h)
      rfl
  | cons c s ih =>
      obtain ⟨fuel, rfl⟩ := Nat.exists_eq_add_one_of_ne_zero (Nat.ne_of_gt (Nat.zero_lt_of_lt h))
      rw [List.flatMap_cons, List.append_assoc, stringBody?_escapeChar,
        ih (Nat.lt_of_succ_lt_succ h)]
      rfl

theorem afterString?_quoted {s : List Char} {fuel : Nat} (h : s.length < fuel) (t : List Char) :
    afterString? fuel (s.flatMap escapeChar ++ '"' :: t) = some t := by
  induction s generalizing fuel with
  | nil =>
      obtain ⟨fuel, rfl⟩ := Nat.exists_eq_add_one_of_ne_zero (Nat.ne_of_gt h)
      rfl
  | cons c s ih =>
      obtain ⟨fuel, rfl⟩ := Nat.exists_eq_add_one_of_ne_zero (Nat.ne_of_gt (Nat.zero_lt_of_lt h))
      rw [List.flatMap_cons, List.append_assoc, afterString?_escapeChar]
      exact ih (Nat.lt_of_succ_lt_succ h)

theorem length_lt_quoted (s t : List Char) :
    s.length < (s.flatMap escapeChar ++ '"' :: t).length + 1 := by
  induction s with
  | nil => exact Nat.succ_pos _
  | cons c s ih =>
      have hpos : 0 < (escapeChar c).length := by
        rcases escapeChar_cases c with ⟨_, hescape, -⟩ | ⟨_, _, hescape, -⟩ | ⟨hescape, -⟩ <;>
          rw [hescape] <;> simp
      rw [List.flatMap_cons, List.append_assoc, List.length_append, List.length_cons]
      omega

theorem quoted_append (s : String) (t : List Char) :
    quoted s ++ t = '"' :: (s.toList.flatMap escapeChar ++ '"' :: t) := by
  simp [quoted]

/-- A quoted string is read as its text. -/
theorem string?_quoted (s : String) (t : List Char) : string? (quoted s ++ t) = some (s, t) := by
  rw [quoted_append, string?, stringBody?_quoted (length_lt_quoted s.toList t)]
  simp

/-- A quoted string that is of no interest has no text. -/
theorem stringFor?_quoted (shape : Shape) (s : String) (t : List Char) :
    stringFor? shape (quoted s ++ t) = some (if shape.isNothing then "" else s, t) := by
  unfold stringFor?
  split
  · rw [quoted_append]
    exact congrArg (Option.map ("", ·)) (afterString?_quoted (length_lt_quoted s.toList t) t)
  · exact string?_quoted s t

end ComponentCompiler.Json
