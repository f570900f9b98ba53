import ComponentCompiler.Text.Offset

/-!
# Offsets between characters

An offset is a boundary of a text if it is the length of a front of the text. Text can be cut at
boundaries and nowhere else, and counts of 16-bit units always lead to one.
-/

namespace ComponentCompiler.Text

@[simp] theorem byteLength_nil : byteLength [] = 0 := rfl

@[simp] theorem byteLength_cons (c : Char) (s : List Char) :
    byteLength (c :: s) = c.utf8Size + byteLength s := by
  simp [byteLength]

@[simp] theorem byteLength_append (s t : List Char) :
    byteLength (s ++ t) = byteLength s + byteLength t := by
  simp [byteLength]

theorem byteLength_replicate (count : Nat) (c : Char) :
    byteLength (List.replicate count c) = count * c.utf8Size := by
  simp [byteLength]

theorem byteLength_replicate_of_one {c : Char} (hsize : c.utf8Size = 1) (count : Nat) :
    byteLength (List.replicate count c) = count := by
  rw [byteLength_replicate, hsize, Nat.mul_one]

/-- An offset between two characters, or at an end. -/
def Boundary (s : List Char) (offset : Nat) : Prop :=
  ∃ front back, s = front ++ back ∧ byteLength front = offset

theorem boundary_zero (s : List Char) : Boundary s 0 := ⟨[], s, rfl, rfl⟩

theorem boundary_byteLength (s : List Char) : Boundary s (byteLength s) :=
  ⟨s, [], (List.append_nil s).symm, rfl⟩

theorem Boundary.le {s : List Char} {offset : Nat} (h : Boundary s offset) :
    offset ≤ byteLength s := by
  obtain ⟨front, back, rfl, rfl⟩ := h
  simp

theorem Boundary.cons {s : List Char} {offset : Nat} (h : Boundary s offset) (c : Char) :
    Boundary (c :: s) (c.utf8Size + offset) := by
  obtain ⟨front, back, rfl, rfl⟩ := h
  exact ⟨c :: front, back, rfl, byteLength_cons c front⟩

theorem eq_nil_of_byteLength {s : List Char} (h : byteLength s = 0) : s = [] := by
  cases s with
  | nil => rfl
  | cons c s =>
      have := c.utf8Size_pos
      rw [byteLength_cons] at h
      omega

/-- A boundary behind a front is one of what follows the front. -/
theorem Boundary.of_append_right {s t : List Char} {offset : Nat}
    (h : Boundary (s ++ t) (byteLength s + offset)) : Boundary t offset := by
  obtain ⟨front, back, hsplit, hfront⟩ := h
  rcases List.append_eq_append_iff.mp hsplit with ⟨more, rfl, rfl⟩ | ⟨more, rfl, rfl⟩
  · rw [byteLength_append] at hfront
    exact ⟨more, back, rfl, by omega⟩
  · rw [byteLength_append] at hfront
    obtain rfl : offset = 0 := by omega
    exact boundary_zero _

/-- A boundary within a front is one of the front. -/
theorem Boundary.of_append_left {s t : List Char} {offset : Nat} (h : Boundary (s ++ t) offset)
    (hle : offset ≤ byteLength s) : Boundary s offset := by
  obtain ⟨front, back, hsplit, rfl⟩ := h
  rcases List.append_eq_append_iff.mp hsplit with ⟨more, rfl, -⟩ | ⟨more, rfl, -⟩
  · rw [byteLength_append] at hle
    rw [eq_nil_of_byteLength (by omega : byteLength more = 0), List.append_nil]
    exact boundary_byteLength s
  · exact ⟨front, more, rfl, rfl⟩

/-- Two boundaries cut a text into three parts. -/
theorem Boundary.exists_split {s : List Char} {first last : Nat} (hfirst : Boundary s first)
    (hlast : Boundary s last) (hle : first ≤ last) : ∃ head middle tail,
      s = head ++ (middle ++ tail) ∧ byteLength head = first ∧
        byteLength head + byteLength middle = last := by
  obtain ⟨head, rest, rfl, rfl⟩ := hfirst
  obtain ⟨offset, rfl⟩ := Nat.exists_eq_add_of_le hle
  obtain ⟨middle, tail, rfl, rfl⟩ := hlast.of_append_right
  exact ⟨head, middle, tail, rfl, rfl, rfl⟩

/-- Cutting after the bytes of a front gives the front. -/
theorem cutAtByte?_byteLength (front back : List Char) :
    cutAtByte? (front ++ back) (byteLength front) = some (front, back) := by
  induction front with
  | nil => cases back <;> rfl
  | cons c front ih =>
      have hpos := c.utf8Size_pos
      obtain ⟨bytes, hbytes⟩ : ∃ bytes, byteLength (c :: front) = bytes + 1 :=
        ⟨c.utf8Size + byteLength front - 1, by rw [byteLength_cons]; omega⟩
      have hrest : bytes + 1 - c.utf8Size = byteLength front := by
        rw [← hbytes, byteLength_cons]
        omega
      rw [hbytes, List.cons_append, cutAtByte?, hrest, ih, if_pos (by rw [← hbytes]; simp)]
      rfl

/-- A part of a text stands between its offsets. -/
theorem betweenBytes?_byteLength (front middle back : List Char) :
    betweenBytes? (front ++ (middle ++ back)) (byteLength front)
      (byteLength front + byteLength middle) = some middle := by
  simp only [betweenBytes?, cutAtByte?_byteLength, Option.bind_eq_bind, Option.bind_some,
    Nat.le_add_right, if_true, Nat.add_sub_cancel_left]
  rfl

/-- A count of 16-bit units leads to a boundary, also past the end or inside a pair. -/
theorem boundary_byteOfUnit (s : List Char) (units : Nat) : Boundary s (byteOfUnit s units) := by
  induction s generalizing units with
  | nil => exact boundary_zero []
  | cons c s ih =>
      rw [byteOfUnit]
      split
      · exact boundary_zero _
      · exact (ih _).cons c

end ComponentCompiler.Text
