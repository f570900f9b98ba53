import ComponentCompiler.Proofs.Text.Lines
import ComponentCompiler.Text.Scan
import Mathlib.Data.List.TakeDrop
import Mathlib.Data.List.TakeWhile

/-!
# Reading up to a stop

What the readers do with a text does not depend on what follows a character that they cannot read:
a reader sees the text up to there as if it ended, and leaves the rest alone. Each reader has one
lemma that says so, for every character it does not read.
-/

namespace ComponentCompiler.Text

variable {stop : Char}

theorem after?_append {part : List Char} (h : stop ∉ part) (s t : List Char) :
    after? part (s ++ stop :: t) = (after? part s).map (· ++ stop :: t) := by
  induction part generalizing s with
  | nil => simp [after?]
  | cons p part ih =>
      cases s with
      | nil => simp [after?, (List.ne_of_not_mem_cons h).symm]
      | cons c s =>
          rw [List.cons_append, after?, after?]
          split
          · exact ih (List.not_mem_of_not_mem_cons h) s
          · rfl

theorem eq_of_after? {part s rest : List Char} (h : after? part s = some rest) :
    s = part ++ rest := by
  induction part generalizing s with
  | nil => simpa [after?] using h
  | cons p part ih =>
      cases s with
      | nil => simp [after?] at h
      | cons c s =>
          rw [after?] at h
          split at h
          · rename_i hpc
            rw [hpc, ih h, List.cons_append]
          · cases h

theorem word?_append {word : String} (h : stop ∉ word.toList) (s t : List Char) :
    word? word (s ++ stop :: t) = (word? word s).map (· ++ stop :: t) :=
  after?_append h s t

theorem eq_of_word? {word : String} {s rest : List Char} (h : word? word s = some rest) :
    s = word.toList ++ rest :=
  eq_of_after? h

/-- Trying one word after the other, when each attempt differs in the same way. -/
theorem findSome?_eq_map {α β γ : Type} {xs : List α} {f : α → Option β} {f' : α → Option γ}
    {g : β → γ} (h : ∀ x ∈ xs, f' x = (f x).map g) :
    xs.findSome? f' = (xs.findSome? f).map g := by
  induction xs with
  | nil => rfl
  | cons x xs ih =>
      have ih := ih fun y hy => h y (List.mem_cons_of_mem x hy)
      rw [List.findSome?_cons, List.findSome?_cons, h x List.mem_cons_self]
      cases f x with
      | none => exact ih
      | some _ => rfl

theorem oneOf?_append {words : List String} (h : ∀ word ∈ words, stop ∉ word.toList)
    (s t : List Char) : oneOf? words (s ++ stop :: t) = (oneOf? words s).map (· ++ stop :: t) :=
  findSome?_eq_map fun word hword => word?_append (h word hword) s t

theorem eq_of_oneOf? {words : List String} {s rest : List Char}
    (h : oneOf? words s = some rest) : ∃ word ∈ words, s = word.toList ++ rest := by
  obtain ⟨word, hword, hrest⟩ := List.exists_of_findSome?_eq_some h
  exact ⟨word, hword, eq_of_word? hrest⟩

theorem span_append {p : Char → Bool} (h : p stop = false) (s t : List Char) :
    (s ++ stop :: t).span p = Prod.map id (· ++ stop :: t) (s.span p) := by
  rw [List.span_eq_takeWhile_dropWhile, List.span_eq_takeWhile_dropWhile, Prod.map_apply, id]
  induction s with
  | nil => simp [h]
  | cons c s ih => cases hc : p c <;> simp_all

theorem run?_append {p : Char → Bool} (h : p stop = false) (s t : List Char) :
    run? p (s ++ stop :: t) = (run? p s).map (Prod.map id (· ++ stop :: t)) := by
  unfold run?
  rw [span_append h]
  obtain ⟨front, back⟩ := s.span p
  cases front <;> rfl

/-- A run is the part of the text before what is left, and all of the class. -/
theorem eq_of_run? {p : Char → Bool} {s run rest : List Char} (h : run? p s = some (run, rest)) :
    s = run ++ rest ∧ ∀ c ∈ run, p c := by
  have hspan : s.span p = (run, rest) := by
    unfold run? at h
    split at h
    · cases h
    · simpa using h
  rw [List.span_eq_takeWhile_dropWhile] at hspan
  obtain ⟨rfl, rfl⟩ := Prod.mk.inj hspan
  exact ⟨List.takeWhile_append_dropWhile.symm, fun c hc => List.mem_takeWhile_imp hc⟩

theorem not_mem_of_run? {p : Char → Bool} {s run rest : List Char}
    (h : run? p s = some (run, rest)) (hstop : p stop = false) : stop ∉ run := by
  intro hmem
  have hclass := (eq_of_run? h).2 stop hmem
  simp [hstop] at hclass

theorem boundary?_append (h : isWord stop = false) (before : Option Char) (s t : List Char) :
    boundary? before (s ++ stop :: t) = boundary? before s := by
  cases s with
  | nil => simp [boundary?, isWordBoundary, h]
  | cons c s => rfl

/-- Before a text, a character that belongs to no word counts as the start of the text. -/
theorem boundary?_stop (h : isWord stop = false) (s : List Char) :
    boundary? (some stop) s = boundary? none s := by
  simp [boundary?, isWordBoundary, h]

end ComponentCompiler.Text
