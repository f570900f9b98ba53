import ComponentCompiler.Proofs.Text.Lines
import ComponentCompiler.Proofs.Text.Offset
import ComponentCompiler.Source.Frame

/-!
# Every range has a frame

The offsets at which lines start and the pieces of a text belong together: the text of a line
stands at the offset of its number (`exists_split_of_line`). So every line that a frame asks for
is there, and a range has a frame whatever its offsets are (`isSome_frame?`).
-/

namespace ComponentCompiler

open Text

namespace SourceText

theorem startsAfter_of_not_mem {s : List Char} (h : '\n' ∉ s) (offset : Nat) :
    startsAfter offset s = [] := by
  induction s generalizing offset with
  | nil => rfl
  | cons c s ih =>
      rw [startsAfter, if_neg (List.ne_of_not_mem_cons h).symm]
      exact ih (List.not_mem_of_not_mem_cons h) _

theorem startsAfter_append (s t : List Char) (offset : Nat) :
    startsAfter offset (s ++ t) =
      startsAfter offset s ++ startsAfter (offset + byteLength s) t := by
  induction s generalizing offset with
  | nil => rfl
  | cons c s ih =>
      rw [List.cons_append, startsAfter, startsAfter, ih, byteLength_cons, Nat.add_assoc offset]
      split <;> rfl

/-- After a line the next one starts behind its line feed. -/
theorem startsAfter_append_of_not_mem {s : List Char} (h : '\n' ∉ s) (t : List Char)
    (offset : Nat) : startsAfter offset (s ++ '\n' :: t) =
      (offset + byteLength s + 1) :: startsAfter (offset + byteLength s + 1) t := by
  rw [startsAfter_append, startsAfter_of_not_mem h]
  rfl

/-- A line stands between line feeds or the ends of a text, and at the offset that is noted for
it. -/
theorem exists_split_of_line {s line : List Char} {index : Nat} (offset : Nat)
    (h : (pieces '\n' s)[index]? = some line) : ∃ front back, s = front ++ (line ++ back) ∧
      (front = [] ∨ front.getLast? = some '\n') ∧ (back = [] ∨ back.head? = some '\n') ∧
      newlines front = index ∧
      (offset :: startsAfter offset s)[index]? = some (offset + byteLength front) := by
  induction s using pieces_induction '\n' generalizing index offset with
  | last s hs =>
      rw [pieces_of_not_mem hs] at h
      cases index with
      | zero =>
          obtain rfl : s = line := by simpa using h
          exact ⟨[], [], by simp, .inl rfl, .inl rfl, rfl, rfl⟩
      | succ index => simp at h
  | more s t hs ih =>
      rw [pieces_append_of_not_mem hs] at h
      cases index with
      | zero =>
          obtain rfl : s = line := by simpa using h
          exact ⟨[], '\n' :: t, rfl, .inl rfl, .inr rfl, rfl, rfl⟩
      | succ index =>
          obtain ⟨front, back, rfl, hfront, hback, rfl, hstart⟩ :=
            ih (offset + byteLength s + 1) h
          refine ⟨s ++ '\n' :: front, back, by simp, .inr ?_, hback, ?_, ?_⟩
          · rcases hfront with rfl | hlast
            · simp
            · rw [List.getLast?_append, List.getLast?_cons, hlast]
              rfl
          · simp [newlines, List.count_eq_zero.mpr hs]
          · rw [startsAfter_append_of_not_mem hs, List.getElem?_cons_succ, hstart,
              byteLength_append, byteLength_cons]
            simp [Nat.add_assoc, Char.utf8Size]

theorem length_startsAfter (offset : Nat) (s : List Char) :
    (startsAfter offset s).length = newlines s := by
  induction s using pieces_induction '\n' generalizing offset with
  | last s hs => rw [startsAfter_of_not_mem hs, newlines, List.count_eq_zero.mpr hs]; rfl
  | more s t hs ih =>
      rw [startsAfter_append_of_not_mem hs, List.length_cons, ih]
      simp [newlines, List.count_eq_zero.mpr hs]

variable (source : SourceText)

theorem lineCount_eq : source.lineCount = (pieces '\n' source.chars).length := by
  rw [length_pieces_newline, lineCount, lineStarts, List.length_cons, length_startsAfter]

/-- The line of an offset is one of the lines. -/
theorem line_le_lineCount (offset : Nat) : (source.lineColumn offset).1 ≤ source.lineCount :=
  List.length_filter_le _ _

/-- Every line can be cut out of the text at the offset that is noted for it. -/
theorem exists_line {index : Nat} (h : index < source.lineCount) :
    ∃ line start, (pieces '\n' source.chars)[index]? = some line ∧
      source.lineStarts[index]? = some start ∧
      betweenBytes? source.chars start (start + byteLength line) = some line := by
  rw [lineCount_eq] at h
  obtain ⟨line, hline⟩ : ∃ line, (pieces '\n' source.chars)[index]? = some line :=
    ⟨_, List.getElem?_eq_getElem h⟩
  obtain ⟨front, back, hchars, -, -, -, hstart⟩ := exists_split_of_line 0 hline
  refine ⟨line, byteLength front, hline, ?_, ?_⟩
  · rw [lineStarts, hstart, Nat.zero_add]
  · rw [hchars]
    exact betweenBytes?_byteLength front line back

theorem isSome_frameRows? (start stop : Nat) {index : Nat} (h : index < source.lineCount) :
    (source.frameRows? start stop index).isSome := by
  obtain ⟨line, lineStart, hline, hstart, -⟩ := source.exists_line h
  simp only [frameRows?, lineChars?, hline, hstart, Option.map_some, Option.bind_eq_bind,
    Option.bind_some]
  split <;> rfl

theorem isSome_bind {α β : Type} {x : Option α} {f : α → Option β} (hx : x.isSome)
    (hf : ∀ a, (f a).isSome) : (x >>= f).isSome := by
  obtain ⟨a, rfl⟩ := Option.isSome_iff_exists.mp hx
  exact hf a

theorem isSome_mapM {α β : Type} {f : α → Option β} {xs : List α} (h : ∀ x ∈ xs, (f x).isSome) :
    (xs.mapM f).isSome := by
  induction xs with
  | nil => rfl
  | cons x xs ih =>
      rw [List.mapM_cons]
      refine isSome_bind (h x List.mem_cons_self) fun y => ?_
      exact isSome_bind (ih fun x hx => h x (List.mem_cons_of_mem _ hx)) fun ys => rfl

theorem mapM_eq_some_map {α β : Type} {f : α → Option β} {g : α → β} {xs : List α}
    (h : ∀ x ∈ xs, f x = some (g x)) : xs.mapM f = some (xs.map g) := by
  induction xs with
  | nil => rfl
  | cons x xs ih =>
      rw [List.mapM_cons, h x List.mem_cons_self,
        ih fun y hy => h y (List.mem_cons_of_mem _ hy)]
      rfl

/-- Every range has a frame: reversed, past the end and inside a character as well. -/
theorem isSome_frame? (start stop : Nat) : (source.frame? start stop).isSome := by
  have hcount : 0 < source.lineCount := Nat.succ_pos _
  refine isSome_bind (isSome_mapM fun index hindex => ?_) fun rows => rfl
  rw [List.mem_range'_1] at hindex
  apply isSome_frameRows?
  omega

end SourceText

/-- A span in a text of a set has a frame. -/
theorem SourceSet.isSome_frame? {set : SourceSet} {span : Span} {source : SourceText}
    (hget : set.get? span.file = some source) (hplace : span.file ≠ Span.noFile) :
    (set.frame? span).isSome := by
  have hnowhere : span.isNowhere = false := by simpa [Span.isNowhere] using hplace
  simp only [frame?, hnowhere, hget, Bool.false_eq_true, if_false, Option.bind_eq_bind,
    Option.bind_some]
  exact source.isSome_frame? _ _

end ComponentCompiler
