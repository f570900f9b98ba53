import ComponentCompiler.Text.Lines

/-!
# Pieces of a text, one separator at a time

Everything about pieces follows from two facts: a text without the separator is one piece, and at
a separator the pieces of what stands before it and of what follows it meet (`pieces_append`). With
`pieces_induction` a property of texts is shown line by line.
-/

namespace ComponentCompiler.Text

section Pieces

variable {α : Type} [DecidableEq α] {separator : α}

/-- The first piece grows by characters other than the separator. -/
theorem pieces_cons_of_ne {c : α} (h : c ≠ separator) (s : List α) :
    ∃ first more, pieces separator s = first :: more ∧
      pieces separator (c :: s) = (c :: first) :: more := by
  induction s generalizing c with
  | nil => exact ⟨[], [], rfl, by simp [pieces, h]⟩
  | cons d s ih =>
      by_cases hd : d = separator
      · exact ⟨[], pieces separator s, by simp [pieces, hd], by simp [pieces, h, hd]⟩
      · obtain ⟨first, more, -, hcons⟩ := ih hd
        refine ⟨d :: first, more, hcons, ?_⟩
        rw [pieces, if_neg h, hcons]

@[simp] theorem pieces_separator_cons (s : List α) :
    pieces separator (separator :: s) = [] :: pieces separator s := by
  simp [pieces]

theorem pieces_of_not_mem {s : List α} (h : separator ∉ s) : pieces separator s = [s] := by
  induction s with
  | nil => rfl
  | cons c s ih =>
      obtain ⟨first, more, hs, hcons⟩ := pieces_cons_of_ne (List.ne_of_not_mem_cons h).symm s
      rw [ih (List.not_mem_of_not_mem_cons h)] at hs
      obtain ⟨rfl, rfl⟩ := List.cons.inj hs
      exact hcons

/-- The pieces of two texts with a separator between them are those of the one and of the
other. -/
theorem pieces_append (s t : List α) :
    pieces separator (s ++ separator :: t) = pieces separator s ++ pieces separator t := by
  induction s with
  | nil => rw [List.nil_append, pieces_separator_cons]; rfl
  | cons c s ih =>
      by_cases hc : c = separator
      · rw [hc, List.cons_append, pieces_separator_cons, pieces_separator_cons, ih,
          List.cons_append]
      · obtain ⟨first, more, hs, hcons⟩ := pieces_cons_of_ne hc s
        obtain ⟨first', more', hs', hcons'⟩ := pieces_cons_of_ne hc (s ++ separator :: t)
        rw [ih, hs, List.cons_append] at hs'
        obtain ⟨rfl, rfl⟩ := List.cons.inj hs'
        rw [List.cons_append, hcons', hcons, List.cons_append]

theorem pieces_append_of_not_mem {s : List α} (h : separator ∉ s) (t : List α) :
    pieces separator (s ++ separator :: t) = s :: pieces separator t := by
  rw [pieces_append, pieces_of_not_mem h, List.singleton_append]

/-- A text is one piece, or a piece with a separator and a shorter text after it. -/
theorem pieces_induction (separator : α) {motive : List α → Prop}
    (last : ∀ s, separator ∉ s → motive s)
    (more : ∀ s t, separator ∉ s → motive t → motive (s ++ separator :: t)) (s : List α) :
    motive s := by
  by_cases h : separator ∈ s
  · obtain ⟨front, back, rfl, hfront⟩ := List.eq_append_cons_of_mem h
    exact more front back hfront (pieces_induction separator last more back)
  · exact last s h
termination_by s.length

/-- No piece has a separator in it. -/
theorem not_mem_of_mem_pieces {s piece : List α} (h : piece ∈ pieces separator s) :
    separator ∉ piece := by
  induction s using pieces_induction separator with
  | last s hs =>
      rw [pieces_of_not_mem hs, List.mem_singleton] at h
      exact h ▸ hs
  | more s t hs ih =>
      rw [pieces_append_of_not_mem hs, List.mem_cons] at h
      rcases h with rfl | h
      · exact hs
      · exact ih h

/-- The characters of a text stand in its pieces. -/
theorem mem_of_mem_pieces {s piece : List α} {c : α} (h : piece ∈ pieces separator s)
    (hc : c ∈ piece) : c ∈ s := by
  induction s using pieces_induction separator with
  | last s hs =>
      rw [pieces_of_not_mem hs, List.mem_singleton] at h
      exact h ▸ hc
  | more s t hs ih =>
      rw [pieces_append_of_not_mem hs, List.mem_cons] at h
      rcases h with rfl | h
      · exact List.mem_append_left _ hc
      · exact List.mem_append_right _ (List.mem_cons_of_mem _ (ih h))

theorem exists_mem_pieces {s : List α} {c : α} (h : c ∈ s) (hc : c ≠ separator) :
    ∃ piece ∈ pieces separator s, c ∈ piece := by
  induction s using pieces_induction separator with
  | last s hs => exact ⟨s, by simp [pieces_of_not_mem hs], h⟩
  | more s t hs ih =>
      rw [pieces_append_of_not_mem hs]
      rw [List.mem_append, List.mem_cons] at h
      rcases h with h | h | h
      · exact ⟨s, List.mem_cons_self, h⟩
      · exact absurd h hc
      · obtain ⟨piece, hpiece, hmem⟩ := ih h
        exact ⟨piece, List.mem_cons_of_mem _ hpiece, hmem⟩

end Pieces

/-- Pieces without a separator that are put together are the pieces of the whole. -/
theorem pieces_joined {separator : Char} {below : List (List Char)} (hne : below ≠ [])
    (h : ∀ part ∈ below, separator ∉ part) :
    pieces separator (joined [separator] below) = below := by
  induction below with
  | nil => exact absurd rfl hne
  | cons part below ih =>
      have hpart := h part List.mem_cons_self
      cases below with
      | nil => exact pieces_of_not_mem hpart
      | cons next below =>
          rw [joined, List.append_assoc, List.singleton_append, pieces_append_of_not_mem hpart,
            ih (List.cons_ne_nil _ _) fun q hq => h q (List.mem_cons_of_mem part hq)]

theorem length_pieces_newline (s : List Char) : (pieces '\n' s).length = newlines s + 1 :=
  length_pieces '\n' s

/-- A text that another one starts with, up to the end of a line, has its lines at the same
places. -/
theorem getElem?_pieces_of_starts {s t : List Char} (h : s ++ ['\n'] <+: t) {k : Nat}
    {line : List Char} (hk : (pieces '\n' s)[k]? = some line) :
    (pieces '\n' t)[k]? = some line := by
  obtain ⟨below, rfl⟩ := h
  rw [List.append_assoc, List.singleton_append, pieces_append,
    List.getElem?_append_left (List.getElem?_eq_some_iff.mp hk).1, hk]

/-- The lines of the second of two texts start after the lines of the first. -/
theorem getElem?_pieces_append_right (s t : List Char) (k : Nat) :
    (pieces '\n' (s ++ '\n' :: t))[newlines s + 1 + k]? = (pieces '\n' t)[k]? := by
  rw [pieces_append, ← length_pieces_newline, List.getElem?_append_right (Nat.le_add_right _ _),
    Nat.add_sub_cancel_left]

/-- What is appended without a line feed is appended to the last line. -/
theorem getElem?_pieces_append_tail {tail : List Char} (htail : '\n' ∉ tail) (s : List Char)
    (k : Nat) : (pieces '\n' (s ++ tail))[k]? =
      ((pieces '\n' s)[k]?).map fun line => if k = newlines s then line ++ tail else line := by
  induction s using pieces_induction '\n' generalizing k with
  | last s hs =>
      have hnone : newlines s = 0 := List.count_eq_zero.mpr hs
      rw [pieces_of_not_mem hs, pieces_of_not_mem (by simp [hs, htail]), hnone]
      cases k <;> simp
  | more s t hs ih =>
      have hcount : newlines (s ++ '\n' :: t) = newlines t + 1 := by
        simp [newlines, List.count_eq_zero.mpr hs]
      rw [List.append_assoc, List.cons_append, pieces_append_of_not_mem hs,
        pieces_append_of_not_mem hs, hcount]
      cases k with
      | zero => simp
      | succ k => simp [ih]

/-- What is dropped from the end of a list is all of one kind. -/
theorem dropTail_append {α : Type} (p : α → Bool) (s : List α) :
    ∃ tail, s = dropTail p s ++ tail ∧ ∀ x ∈ tail, p x := by
  refine ⟨(s.reverse.takeWhile p).reverse, ?_, ?_⟩
  · rw [dropTail, ← List.reverse_append, List.takeWhile_append_dropWhile, List.reverse_reverse]
  · intro x hx
    exact List.all_eq_true.mp List.all_takeWhile x (List.mem_reverse.mp hx)

theorem prefix_dropTail {α : Type} (p : α → Bool) (s : List α) : dropTail p s <+: s := by
  obtain ⟨tail, hs, -⟩ := dropTail_append p s
  exact ⟨tail, hs.symm⟩

/-- Only a text that is empty or ends in a separator has an empty last piece. -/
theorem of_getLast?_pieces {separator : Char} {s : List Char}
    (h : (pieces separator s).getLast? = some []) : s = [] ∨ s.getLast? = some separator := by
  induction s with
  | nil => exact .inl rfl
  | cons c s ih =>
      right
      by_cases hc : c = separator
      · have hlast : (pieces separator s).getLast? = some [] := by
          rw [hc, pieces_separator_cons] at h
          rwa [List.getLast?_cons_of_ne_nil (pieces_ne_nil separator s)] at h
        rcases ih hlast with rfl | hlast
        · rw [hc]
          rfl
        · rw [List.getLast?_cons, hlast]
          rfl
      · obtain ⟨first, more, hs, hcons⟩ := pieces_cons_of_ne hc s
        rw [hcons] at h
        cases more with
        | nil => simp at h
        | cons next more =>
            rw [hs] at ih
            have hlast := ih (by simpa using h)
            rcases hlast with rfl | hlast
            · simp [pieces] at hs
            · rw [List.getLast?_cons, hlast]
              rfl

/-- What is left of a list ends in something that is not dropped. -/
theorem last_dropTail {α : Type} {p : α → Bool} {s front : List α} {last : α}
    (h : (dropTail p s).reverse = last :: front) : p last = false := by
  rw [dropTail, List.reverse_reverse] at h
  have hhead := List.head?_dropWhile_not p s.reverse
  rw [h] at hhead
  simpa using hhead

/-- What ends in something that is not dropped is left of a list. -/
theorem dropTail_eq_of_last {α : Type} {p : α → Bool} {s tail : List α}
    (hlast : ∀ last, s.getLast? = some last → p last = false) (htail : ∀ x ∈ tail, p x) :
    dropTail p (s ++ tail) = s := by
  have hkept : s.reverse.dropWhile p = s.reverse := by
    rw [← List.head?_reverse] at hlast
    cases hs : s.reverse with
    | nil => rfl
    | cons last front =>
        rw [hs] at hlast
        exact List.dropWhile_cons_of_neg (by simp [hlast last rfl])
  rw [dropTail, List.reverse_append,
    List.dropWhile_append_of_pos fun x hx => htail x (List.mem_reverse.mp hx), hkept,
    List.reverse_reverse]

end ComponentCompiler.Text
