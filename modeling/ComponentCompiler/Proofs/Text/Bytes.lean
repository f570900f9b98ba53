import Mathlib.Data.String.Basic

/-!
# Texts in bytes

The byte of the newline stands in the bytes of no other character (`newline_mem_iff`), so a text is
one line if its bytes are. Some bytes and a newline are a text if the bytes are
(`fromUTF8?_newline`).
-/

namespace ComponentCompiler.Text

/-- The byte that ends a line. -/
def newline : UInt8 := 10

theorem toList_loop (bytes : ByteArray) (index : Nat) (found : List UInt8) :
    ByteArray.toList.loop bytes index found = found.reverse ++ bytes.data.toList.drop index := by
  fun_induction ByteArray.toList.loop bytes index found with
  | case1 index found hindex ih =>
      have hlength : index < bytes.data.toList.length := by simpa using hindex
      have hget : bytes.get! index = bytes.data[index]! := by cases bytes; rfl
      rw [ih, List.drop_eq_getElem_cons hlength, hget, getElem!_pos bytes.data index hindex]
      simp
  | case2 index found hindex =>
      rw [List.drop_eq_nil_of_le (by simpa using Nat.le_of_not_lt hindex)]
      simp

theorem toList_eq (bytes : ByteArray) : bytes.toList = bytes.data.toList := by
  rw [ByteArray.toList, toList_loop]
  rfl

theorem toArray_toList (bytes : ByteArray) : ByteArray.mk bytes.toList.toArray = bytes := by
  rw [toList_eq, Array.toArray_toList]

/-- The bytes of a text are those of its characters. -/
theorem toList_toUTF8 (s : String) : s.toUTF8.toList = s.toList.flatMap String.utf8EncodeChar := by
  rw [toList_eq, ← String.ofList_toList (s := s), String.toList_ofList]
  change (s.toList.flatMap String.utf8EncodeChar).toByteArray.data.toList = _
  rw [List.data_toByteArray, List.toList_toArray]

/-- The bytes of a character above the first 128 are all greater than those. -/
theorem newline_ne_ofNat {n : Nat} (hlow : 128 ≤ n) (hhigh : n < 256) :
    newline ≠ UInt8.ofNat n := by
  intro h
  have hvalue := congrArg UInt8.toNat h
  rw [UInt8.toNat_ofNat', Nat.mod_eq_of_lt hhigh] at hvalue
  have hten : newline.toNat = 10 := rfl
  omega

theorem newline_mem_utf8EncodeChar {c : Char} : newline ∈ String.utf8EncodeChar c ↔ c = '\n' := by
  constructor
  · intro h
    unfold String.utf8EncodeChar at h
    dsimp only at h
    split at h
    · rename_i hsmall
      have hvalue := congrArg UInt8.toNat (List.mem_singleton.mp h)
      rw [UInt8.toNat_ofNat', Nat.mod_eq_of_lt (by omega)] at hvalue
      exact Char.toNat_inj.mp hvalue.symm
    · split at h
      · simp only [List.mem_cons, List.not_mem_nil, or_false] at h
        rcases h with h | h <;> exact absurd h (newline_ne_ofNat (by omega) (by omega))
      · split at h
        · simp only [List.mem_cons, List.not_mem_nil, or_false] at h
          rcases h with h | h | h <;> exact absurd h (newline_ne_ofNat (by omega) (by omega))
        · simp only [List.mem_cons, List.not_mem_nil, or_false] at h
          rcases h with h | h | h | h <;> exact absurd h (newline_ne_ofNat (by omega) (by omega))
  · rintro rfl
    decide

/-- The byte of the newline is in the bytes of a text if the newline is in the text. -/
theorem newline_mem_iff {s : String} : newline ∈ s.toUTF8.toList ↔ '\n' ∈ s.toList := by
  rw [toList_toUTF8, List.mem_flatMap]
  constructor
  · rintro ⟨c, hc, hnewline⟩
    rwa [newline_mem_utf8EncodeChar.mp hnewline] at hc
  · intro h
    exact ⟨'\n', h, newline_mem_utf8EncodeChar.mpr rfl⟩

/-- Bytes are a text if they are the bytes of its characters. -/
theorem fromUTF8?_eq_some_iff {bytes : List UInt8} {s : List Char} :
    String.fromUTF8? ⟨bytes.toArray⟩ = some (String.ofList s) ↔
      bytes = s.flatMap String.utf8EncodeChar := by
  constructor
  · intro h
    unfold String.fromUTF8? at h
    split at h
    · have hbytes : (⟨bytes.toArray⟩ : ByteArray) = s.utf8Encode :=
        congrArg String.toByteArray (Option.some.inj h)
      have hdata := congrArg (fun b => b.data.toList) hbytes
      simpa [List.utf8Encode] using hdata
    · cases h
  · rintro rfl
    have hbytes : (⟨(s.flatMap String.utf8EncodeChar).toArray⟩ : ByteArray) = s.utf8Encode := by
      rw [List.utf8Encode, ← List.data_toByteArray]
    rw [hbytes]
    exact dif_pos (String.ofList s).isValidUTF8

/-- If the last byte of a text is that of the newline, so is its last character. -/
theorem exists_front_of_newline {bytes : List UInt8} {s : List Char}
    (h : bytes ++ [newline] = s.flatMap String.utf8EncodeChar) :
    ∃ front, s = front ++ ['\n'] ∧ bytes = front.flatMap String.utf8EncodeChar := by
  rcases s.eq_nil_or_concat' with rfl | ⟨front, c, rfl⟩
  · exact absurd h (by simp)
  · rw [List.flatMap_append, List.flatMap_singleton] at h
    have hlast : newline ∈ String.utf8EncodeChar c := by
      have hne : String.utf8EncodeChar c ≠ [] := String.utf8EncodeChar_ne_nil
      have hget := congrArg List.getLast? h
      rw [List.getLast?_concat, List.getLast?_append_of_ne_nil _ hne] at hget
      exact List.mem_of_getLast? hget.symm
    obtain rfl := newline_mem_utf8EncodeChar.mp hlast
    exact ⟨front, rfl, List.append_cancel_right h⟩

/-- Bytes with a newline after them are a text if they are one without it. -/
theorem fromUTF8?_newline (bytes : List UInt8) :
    String.fromUTF8? ⟨(bytes ++ [newline]).toArray⟩ =
      (String.fromUTF8? ⟨bytes.toArray⟩).map (· ++ "\n") := by
  cases htext : String.fromUTF8? ⟨bytes.toArray⟩ with
  | some text =>
    rw [← String.ofList_toList (s := text)] at htext ⊢
    have hbytes := fromUTF8?_eq_some_iff.mp htext
    have hline : bytes ++ [newline] = (text.toList ++ ['\n']).flatMap String.utf8EncodeChar := by
      rw [hbytes, List.flatMap_append]
      rfl
    rw [fromUTF8?_eq_some_iff.mpr hline, Option.map_some, String.ofList_append]
  | none =>
    cases hline : String.fromUTF8? ⟨(bytes ++ [newline]).toArray⟩ with
    | none => rfl
    | some line =>
      rw [← String.ofList_toList (s := line)] at hline
      obtain ⟨front, -, hfront⟩ := exists_front_of_newline (fromUTF8?_eq_some_iff.mp hline)
      rw [fromUTF8?_eq_some_iff.mpr hfront] at htext
      cases htext

section Lines

variable {line chunk rest : List UInt8}

/-- The bytes before the newline at the end of a line are part of the line. -/
theorem exists_rest_of_append (h : chunk ++ rest = line ++ [newline]) (hchunk : newline ∉ chunk) :
    ∃ ahead, line = chunk ++ ahead ∧ rest = ahead ++ [newline] := by
  rcases List.append_eq_append_iff.mp h with ⟨ahead, hline, hrest⟩ | ⟨t, hchunkEq, hend⟩
  · exact ⟨ahead, hline, hrest⟩
  · cases t with
    | nil => exact ⟨[], by simpa using hchunkEq.symm, by simpa using hend.symm⟩
    | cons byte t =>
      obtain ⟨rfl, -⟩ := List.cons.inj hend
      rw [hchunkEq] at hchunk
      simp at hchunk

theorem eq_nil_of_newline (h : newline :: rest = line ++ [newline]) (hline : newline ∉ line) :
    line = [] ∧ rest = [] := by
  cases line with
  | nil => exact ⟨rfl, (List.cons.inj h).2⟩
  | cons byte line =>
    obtain ⟨rfl, -⟩ := List.cons.inj h
    exact absurd List.mem_cons_self hline

end Lines

end ComponentCompiler.Text
