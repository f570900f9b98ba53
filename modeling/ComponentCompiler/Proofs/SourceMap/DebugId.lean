import ComponentCompiler.SourceMap.DebugId

/-!
# Debug identifiers and back

An identifier that a text names is written so that the text names it again (`ofText?_text`).
-/

namespace ComponentCompiler.DebugId

open Json

-- Sums of naturals start from the core library's zero, whatever else is imported.
attribute [local instance (20000)] Zero.ofOfNat0

/-- Digits that go on with a number. -/
def hexOf (value : Nat) (digits : List Char) : Nat :=
  digits.foldl (fun n c => 16 * n + (hexValue? c).getD 0) value

/-- Characters that are hexadecimal digits. -/
def AreHex (digits : List Char) : Prop := ∀ c ∈ digits, ∃ v < 16, hexValue? c = some v

theorem hexValue?_digitChar {n : Nat} (h : n < 16) : hexValue? n.digitChar = some n := by
  revert n
  decide

theorem AreHex.append {s t : List Char} (hs : AreHex s) (ht : AreHex t) : AreHex (s ++ t) :=
  fun c hc => (List.mem_append.mp hc).elim (hs c) (ht c)

theorem areHex_toDigits (n : Nat) : AreHex (Nat.toDigits 16 n) := by
  induction n using Nat.strongRecOn with
  | ind n ih =>
      have hlast : ∀ m < 16, AreHex [m.digitChar] := by
        intro m hm c hc
        exact ⟨m, hm, by rw [List.mem_singleton.mp hc, hexValue?_digitChar hm]⟩
      by_cases hlt : n < 16
      · rw [Nat.toDigits_of_lt_base hlt]
        exact hlast n hlt
      · rw [Nat.toDigits_of_base_le (by decide) (by omega)]
        exact (ih (n / 16) (by omega)).append (hlast _ (Nat.mod_lt n (by decide)))

theorem areHex_zeros (count : Nat) : AreHex (List.replicate count '0') := fun c hc =>
  ⟨0, by decide, by rw [List.eq_of_mem_replicate hc]; rfl⟩

theorem hexOf_toDigits (n : Nat) : hexOf 0 (Nat.toDigits 16 n) = n := by
  induction n using Nat.strongRecOn with
  | ind n ih =>
      by_cases hlt : n < 16
      · rw [Nat.toDigits_of_lt_base hlt, hexOf, List.foldl_cons, List.foldl_nil,
          hexValue?_digitChar hlt]
        simp
      · have hrest := ih (n / 16) (by omega)
        rw [hexOf] at hrest
        rw [Nat.toDigits_of_base_le (by decide) (by omega), hexOf, List.foldl_append, hrest,
          List.foldl_cons, List.foldl_nil, hexValue?_digitChar (Nat.mod_lt n (by decide)),
          Option.getD_some]
        omega

theorem hexOf_zeros (count : Nat) : hexOf 0 (List.replicate count '0') = 0 := by
  induction count with
  | zero => rfl
  | succ count ih => exact ih

/-- The digits of a number, filled up with zeros. -/
def filled (n : Nat) : List Char :=
  List.replicate (32 - (Nat.toDigits 16 n).length) '0' ++ Nat.toDigits 16 n

theorem areHex_filled (n : Nat) : AreHex (filled n) :=
  (areHex_zeros _).append (areHex_toDigits n)

theorem hexOf_filled (n : Nat) : hexOf 0 (filled n) = n := by
  have hzeros := hexOf_zeros (32 - (Nat.toDigits 16 n).length)
  have hdigits := hexOf_toDigits n
  rw [hexOf] at hzeros hdigits
  rw [filled, hexOf, List.foldl_append, hzeros, hdigits]

theorem length_filled {n : Nat} (h : n < 2 ^ 128) : (filled n).length = 32 := by
  have hlength : (Nat.toDigits 16 n).length ≤ 32 :=
    (Nat.length_toDigits_le_iff (by decide) (by decide)).mpr (by omega)
  rw [filled, List.length_append, List.length_replicate]
  omega

/-- Digits of a known count are read. -/
theorem digits?_append {digits : List Char} (h : AreHex digits) (value : Nat) (rest : List Char) :
    digits? digits.length value (digits ++ rest) = some (hexOf value digits, rest) := by
  induction digits generalizing value with
  | nil => cases rest <;> rfl
  | cons c digits ih =>
      obtain ⟨v, -, hv⟩ := h c List.mem_cons_self
      rw [List.length_cons, List.cons_append, digits?, hv]
      have hrest := ih (fun c hc => h c (List.mem_cons_of_mem _ hc)) (16 * value + v)
      simp only [Option.bind_eq_bind, Option.bind_some, hrest, hexOf, List.foldl_cons, hv,
        Option.getD_some]

theorem digits?_take {digits : List Char} (h : AreHex digits) {count : Nat}
    (hcount : count ≤ digits.length) (value : Nat) (rest : List Char) :
    digits? count value (digits.take count ++ rest) =
      some (hexOf value (digits.take count), rest) := by
  have htake : AreHex (digits.take count) := fun c hc => h c (List.mem_of_mem_take hc)
  have hread := digits?_append htake value rest
  rwa [List.length_take, Nat.min_eq_left hcount] at hread

/-- Groups of digits are read as the digits without the hyphens. -/
theorem groups?_grouped {groups : List Nat} {digits : List Char} (h : AreHex digits)
    (hlength : digits.length = groups.sum) (value : Nat) (rest : List Char) :
    groups? groups value ((grouped groups digits).drop 1 ++ rest) =
      some (hexOf value digits, rest) := by
  induction groups generalizing digits value with
  | nil =>
      obtain rfl := List.length_eq_zero_iff.mp hlength
      rfl
  | cons count groups ih =>
      rw [List.sum_cons] at hlength
      have hcount : count ≤ digits.length := by omega
      have htake := digits?_take h hcount value
      cases groups with
      | nil =>
          have hall : digits.take count = digits :=
            List.take_of_length_le (by simp at hlength; omega)
          rw [hall] at htake
          simp only [groups?, grouped, hall, List.append_nil, List.drop_one, List.tail_cons, htake]
      | cons next groups =>
          have hdrop : AreHex (digits.drop count) := fun c hc => h c (List.mem_of_mem_drop hc)
          have hlength' : (digits.drop count).length = (next :: groups).sum := by
            rw [List.length_drop]
            omega
          have hnext := ih hdrop hlength' (hexOf value (digits.take count))
          have hsplit : hexOf (hexOf value (digits.take count)) (digits.drop count) =
              hexOf value digits := by
            rw [hexOf, hexOf, ← List.foldl_append, List.take_append_drop]
            rfl
          rw [hsplit] at hnext
          have hgrouped : (grouped (count :: next :: groups) digits).drop 1 ++ rest =
              digits.take count ++
                '-' :: ((grouped (next :: groups) (digits.drop count)).drop 1 ++ rest) := by
            simp [grouped]
          rw [hgrouped, groups?, htake]
          exact hnext

/-- Digits of an appendix go on with a number. -/
theorem foldlM_hex {digits : List Char} (h : AreHex digits) (value : Nat) :
    digits.foldlM (fun n c => (hexValue? c).map (16 * n + ·)) value =
      some (hexOf value digits) := by
  induction digits generalizing value with
  | nil => rfl
  | cons c digits ih =>
      obtain ⟨v, -, hv⟩ := h c List.mem_cons_self
      have hrest := ih (fun c hc => h c (List.mem_cons_of_mem _ hc)) (16 * value + v)
      rw [List.foldlM_cons, hv, Option.map_some, Option.bind_eq_bind, Option.bind_some, hrest,
        hexOf, hexOf, List.foldl_cons, hv, Option.getD_some]

theorem appendix?_toDigits {n : Nat} (h : n < 2 ^ 32) : appendix? (Nat.toDigits 16 n) = some n := by
  have hhex := areHex_toDigits n
  have hne : Nat.toDigits 16 n ≠ [] := Nat.toDigits_ne_nil
  have hvalue := hexOf_toDigits n
  revert hhex hne hvalue
  cases Nat.toDigits 16 n with
  | nil => exact fun _ hne => absurd rfl hne
  | cons c digits =>
      intro hhex _ hvalue
      have hplus : c ≠ '+' := by
        rintro rfl
        obtain ⟨v, -, hv⟩ := hhex '+' List.mem_cons_self
        cases hv
      have hread := foldlM_hex hhex 0
      rw [hvalue] at hread
      unfold appendix?
      split
      · rename_i heq
        cases heq
        exact absurd rfl hplus
      · have hfits : ¬((c :: digits).isEmpty || 2 ^ 32 ≤ n) := by
          rw [List.isEmpty_cons, Bool.false_or, decide_eq_true_eq]
          exact Nat.not_le.mpr h
        dsimp only
        rw [hread]
        exact if_neg hfits

/-- What is written of an identifier before its appendix. -/
theorem toList_text (id : DebugId) : id.text.toList = (grouped groups (filled id.number)).drop 1 ++
    if id.appendix = 0 then [] else '-' :: Nat.toDigits 16 id.appendix := by
  rw [text, String.toList_ofList]
  rfl

theorem getElem?_text {id : DebugId} (h : id.number < 2 ^ 128) :
    id.text.toList[8]? = some '-' := by
  have hlength : ((filled id.number).take 8).length = 8 := by
    rw [List.length_take, length_filled h]
    rfl
  rw [toList_text, groups, grouped, List.cons_append, List.drop_one, List.tail_cons,
    List.append_assoc, List.getElem?_append_right (by omega), hlength]
  rfl

/-- An identifier is read back from its text. -/
theorem ofText?_text {id : DebugId} (hnumber : id.number < 2 ^ 128)
    (happendix : id.appendix < 2 ^ 32) : ofText? id.text = some id := by
  have hlength : (filled id.number).length = groups.sum := length_filled hnumber
  have hread := groups?_grouped (areHex_filled id.number) hlength 0
    (if id.appendix = 0 then [] else '-' :: Nat.toDigits 16 id.appendix)
  rw [hexOf_filled, ← toList_text] at hread
  rw [ofText?]
  simp only [getElem?_text hnumber, beq_self_eq_true, if_true, hread, Option.bind_eq_bind,
    Option.bind_some]
  by_cases hzero : id.appendix = 0
  · rw [if_pos hzero, ← hzero]
    rfl
  · rw [if_neg hzero]
    simp only [appendix?_toDigits happendix, Option.bind_some]
    rfl

theorem hexValue?_lt {c : Char} {v : Nat} (h : hexValue? c = some v) : v < 16 := by
  have hbound : ∀ {a b : Char}, a ≤ b → a.toNat ≤ b.toNat := fun hab => hab
  simp only [hexValue?, isDigit, Bool.and_eq_true, decide_eq_true_eq] at h
  split at h
  · rename_i hc
    cases h
    have hle := hbound hc.2
    rw [digitValue]
    simp at hle
    omega
  · split at h
    · rename_i hc
      cases h
      have hle := hbound hc.2
      simp at hle
      omega
    · split at h
      · rename_i hc
        cases h
        have hle := hbound hc.2
        simp at hle
        omega
      · cases h

/-- Digits of a count stand for a number with no more digits. -/
theorem digits?_lt {count value n : Nat} {s rest : List Char}
    (h : digits? count value s = some (n, rest)) : n < (value + 1) * 16 ^ count := by
  fun_induction digits? count value s with
  | case1 value s =>
      cases h
      omega
  | case2 => cases h
  | case3 count value c s ih =>
      obtain ⟨v, hv, hrest⟩ := Option.bind_eq_some_iff.mp h
      have hlt := hexValue?_lt hv
      calc n < (16 * value + v + 1) * 16 ^ count := ih v hrest
        _ ≤ (value + 1) * 16 * 16 ^ count := Nat.mul_le_mul_right _ (by omega)
        _ = (value + 1) * 16 ^ (count + 1) := by rw [Nat.mul_assoc, Nat.pow_succ']

theorem groups?_lt {groups : List Nat} {value n : Nat} {s rest : List Char}
    (h : groups? groups value s = some (n, rest)) : n < (value + 1) * 16 ^ groups.sum := by
  fun_induction groups? groups value s with
  | case1 value s =>
      cases h
      simp
  | case2 count value s => simpa using digits?_lt h
  | case3 count next groups value s ih =>
      obtain ⟨⟨middle, after⟩, hmiddle, hrest⟩ := Option.bind_eq_some_iff.mp h
      have hlt := digits?_lt hmiddle
      split at hrest
      · rename_i heq
        cases heq
        calc n < (middle + 1) * 16 ^ (next :: groups).sum := ih _ _ hrest
          _ ≤ (value + 1) * 16 ^ count * 16 ^ (next :: groups).sum := Nat.mul_le_mul_right _ hlt
          _ = (value + 1) * 16 ^ (count :: next :: groups).sum := by
            rw [Nat.mul_assoc, ← Nat.pow_add, ← List.sum_cons]
      · cases hrest

theorem appendix?_lt {s : List Char} {n : Nat} (h : appendix? s = some n) : n < 2 ^ 32 := by
  obtain ⟨value, -, hvalue⟩ := Option.bind_eq_some_iff.mp h
  simp only [Option.pure_def, Option.ite_none_left_eq_some, Option.some.injEq] at hvalue
  obtain ⟨hsmall, rfl⟩ := hvalue
  simp at hsmall
  exact hsmall.2

/-- An identifier that a text names has as many bits as it may have. -/
theorem lt_of_ofText? {text : String} {id : DebugId} (h : ofText? text = some id) :
    id.number < 2 ^ 128 ∧ id.appendix < 2 ^ 32 := by
  have hrest : ∀ {number : Nat} {rest : List Char}, number < 2 ^ 128 →
      (appendix? rest).bind (fun appendix => some ⟨number, appendix⟩) = some id →
      id.number < 2 ^ 128 ∧ id.appendix < 2 ^ 32 := by
    intro number rest hnumber hid
    obtain ⟨appendix, happendix, hid⟩ := Option.bind_eq_some_iff.mp hid
    cases hid
    exact ⟨hnumber, appendix?_lt happendix⟩
  rw [ofText?] at h
  dsimp only at h
  split at h
  · obtain ⟨⟨number, rest⟩, hread, h⟩ := Option.bind_eq_some_iff.mp h
    have hnumber : number < 2 ^ 128 := by simpa [groups] using groups?_lt hread
    split at h
    · cases h
      exact ⟨hnumber, Nat.two_pow_pos 32⟩
    · exact hrest hnumber h
    · cases h
    · exact hrest hnumber h
  · obtain ⟨⟨number, rest⟩, hread, h⟩ := Option.bind_eq_some_iff.mp h
    have hnumber : number < 2 ^ 128 := by simpa using digits?_lt hread
    split at h
    · cases h
      exact ⟨hnumber, Nat.two_pow_pos 32⟩
    · exact hrest hnumber h
    · cases h
    · exact hrest hnumber h

end ComponentCompiler.DebugId
