import ComponentCompiler.Proofs.Text.Rewriting
import Mathlib.Data.List.Infix

/-!
# How lines start after a rewrite

A rule that replaces its first part changes one line, the first one with such a part
(`pieces_once`). What a line starts with can only change there if the part is at its start, or if
something that the line starts with reaches into the part. The latter is excluded for texts that
stand apart (`Apart`): then reading what a line starts with stops at the part.
-/

namespace ComponentCompiler.Text

section First

variable {α : Type} {p opened : α → Bool} {f : α → α} {P : α → Bool}

theorem any_congr_of_mem {xs : List α} (h : ∀ x ∈ xs, p x = P x) : xs.any p = xs.any P := by
  rw [Bool.eq_iff_iff, List.any_eq_true, List.any_eq_true]
  exact exists_congr fun x => and_congr_right fun hx => by rw [h x hx]

/-- Changes the first item of a kind. -/
def inFirst (p : α → Bool) (f : α → α) : List α → List α
  | [] => []
  | x :: xs => if p x then f x :: xs else x :: inFirst p f xs

/-- The items of a list without the first one of a kind, if that one is opened. -/
def withoutFirst (p opened : α → Bool) (xs : List α) : List α :=
  if (xs.find? p).any opened then xs.eraseP p else xs

theorem withoutFirst_cons_of_pos {x : α} (h : p x) (xs : List α) :
    withoutFirst p opened (x :: xs) = if opened x then xs else x :: xs := by
  simp [withoutFirst, h]

theorem withoutFirst_cons_of_neg {x : α} (h : p x = false) (xs : List α) :
    withoutFirst p opened (x :: xs) = x :: withoutFirst p opened xs := by
  simp only [withoutFirst, List.find?_cons, h, List.eraseP_cons_of_neg (by simpa using h)]
  split <;> rfl

theorem mem_of_mem_withoutFirst {x : α} {xs : List α} (h : x ∈ withoutFirst p opened xs) :
    x ∈ xs := by
  unfold withoutFirst at h
  split at h
  · exact List.mem_of_mem_eraseP h
  · exact h

/-- An item that is not opened stays. -/
theorem mem_withoutFirst {x : α} {xs : List α} (h : x ∈ xs) (hx : opened x = false) :
    x ∈ withoutFirst p opened xs := by
  induction xs with
  | nil => cases h
  | cons y xs ih =>
    cases hp : p y with
    | true =>
      rw [withoutFirst_cons_of_pos hp]
      split
      · rename_i hy
        rcases List.mem_cons.mp h with rfl | h
        · rw [hx] at hy
          cases hy
        · exact h
      · exact h
    | false =>
      rw [withoutFirst_cons_of_neg hp]
      rcases List.mem_cons.mp h with rfl | h
      · exact List.mem_cons_self
      · exact List.mem_cons_of_mem y (ih h)

/-- What is known of some item is known of the others if an opened one loses it. -/
theorem any_inFirst_of_lost (h : ∀ x, p x → P (f x) = (P x && !opened x)) (xs : List α) :
    (inFirst p f xs).any P = (withoutFirst p opened xs).any P := by
  induction xs with
  | nil => rfl
  | cons x xs ih =>
    cases hp : p x with
    | true =>
      rw [withoutFirst_cons_of_pos hp]
      cases ho : opened x <;> simp [inFirst, hp, ho, h x hp]
    | false =>
      rw [withoutFirst_cons_of_neg hp, inFirst, hp]
      simp [ih]

/-- An opened item may be new among those of which something is known. -/
theorem any_inFirst_of_new (h : ∀ x, p x → P (f x) = (P x || opened x)) (xs : List α) :
    (inFirst p f xs).any P = (xs.any P || (xs.find? p).any opened) := by
  induction xs with
  | nil => rfl
  | cons x xs ih =>
    cases hp : p x with
    | true =>
      simp only [inFirst, hp, if_true, List.any_cons, h x hp, List.find?_cons, Option.any_some]
      rw [Bool.or_right_comm]
    | false => simp [inFirst, hp, ih, Bool.or_assoc]

end First

/-- Whether some line of a text is of a kind. -/
def someLine (p : List Char → Bool) (s : List Char) : Bool := (pieces '\n' s).any p

theorem someLine_append (p : List Char → Bool) (s t : List Char) :
    someLine p (s ++ '\n' :: t) = (someLine p s || someLine p t) := by
  rw [someLine, pieces_append, List.any_append]
  rfl

variable {stop : Char} {rule : Replacer} {before : Option Char} {s : List Char}

/-- A rule that replaces its first part changes the first line that has one. -/
theorem Replacer.StopsAt.pieces_once (h : StopsAt stop rule) (s : List Char) :
    pieces stop (once rule none s) =
      inFirst (found rule.scan none) (once rule none) (pieces stop s) := by
  induction s using pieces_induction stop with
  | last s hs =>
    rw [pieces_of_not_mem hs, pieces_of_not_mem (h.not_mem_once hs), inFirst]
    split
    · rfl
    · rename_i hfound
      rw [once_of_not_found (by simpa using hfound)]
      rfl
  | more s t hs ih =>
    rw [h.once_append, pieces_append_of_not_mem hs, inFirst]
    split
    · rw [pieces_append_of_not_mem (h.not_mem_once hs)]
    · rw [pieces_append_of_not_mem hs, ih]

/-- Where something is recognised, the first part is replaced: at the start of a text, or after
other characters. -/
theorem Replacer.once_cases (h : found rule.scan before s) :
    (∃ replacement rest, rule before s = some (replacement, rest) ∧
      once rule before s = replacement ++ rest) ∨
    rule before s = none ∧ ∃ front b tail replacement rest, front ≠ [] ∧ s = front ++ tail ∧
      rule b tail = some (replacement, rest) ∧
      once rule before s = front ++ (replacement ++ rest) := by
  induction s generalizing before with
  | nil => cases h
  | cons c s ih =>
    rw [found, Replacer.scan] at h
    rw [once]
    cases hrule : rule before (c :: s) with
    | some pair => exact .inl ⟨pair.1, pair.2, rfl, rfl⟩
    | none =>
      rw [hrule] at h
      refine .inr ⟨rfl, ?_⟩
      rcases ih (by simpa using h) with ⟨replacement, rest, hpair, honce⟩ |
        ⟨-, front, b, tail, replacement, rest, -, rfl, hpair, honce⟩
      · exact ⟨[c], some c, s, replacement, rest, by simp, rfl, hpair, by simp [honce]⟩
      · exact ⟨c :: front, b, tail, replacement, rest, by simp, rfl, hpair, by simp [honce]⟩

section Apart

variable {part head front : List Char}

/-- No end of a part, but perhaps the whole part, agrees with what a text starts with. -/
def Apart (part head : List Char) : Prop :=
  ∀ tail ∈ part.tail.tails, tail ≠ [] → ¬tail <+: head ∧ ¬head <+: tail

instance (part head : List Char) : Decidable (Apart part head) :=
  inferInstanceAs
    (Decidable (∀ tail ∈ part.tail.tails, tail ≠ [] → ¬tail <+: head ∧ ¬head <+: tail))

theorem after?_append_of_unlike
    (h : ∀ tail, tail <:+ part → tail ≠ [] → ¬tail <+: head ∧ ¬head <+: tail)
    (front rest : List Char) :
    after? part (front ++ (head ++ rest)) = (after? part front).map (· ++ (head ++ rest)) := by
  induction front generalizing part with
  | nil =>
    cases part with
    | nil => rfl
    | cons c part =>
      obtain ⟨hpart, hhead⟩ := h (c :: part) (List.suffix_refl _) (by simp)
      cases hafter : after? (c :: part) ([] ++ (head ++ rest)) with
      | none => rfl
      | some t =>
        have hsplit := eq_of_after? hafter
        rcases List.prefix_or_prefix_of_prefix ⟨t, hsplit.symm⟩ ⟨rest, rfl⟩ with hprefix | hprefix
        · exact absurd hprefix hpart
        · exact absurd hprefix hhead
  | cons c front ih =>
    cases part with
    | nil => rfl
    | cons d part =>
      rw [List.cons_append, after?, after?]
      split
      · exact ih fun tail htail => h tail (htail.trans (List.suffix_cons d part))
      · rfl

/-- A part is read at the start of a text whatever comes after that, if it stands apart. -/
theorem Apart.after?_append (h : Apart part head) (hfront : front ≠ []) (rest : List Char) :
    after? part (front ++ (head ++ rest)) = (after? part front).map (· ++ (head ++ rest)) := by
  cases part with
  | nil => rfl
  | cons d part =>
    cases front with
    | nil => exact absurd rfl hfront
    | cons c front =>
      rw [List.cons_append, after?, after?]
      split
      · refine after?_append_of_unlike (fun tail htail => ?_) front rest
        exact h tail ((List.mem_tails _ _).mpr htail)
      · rfl

theorem Apart.word?_append {word : String} (h : Apart word.toList head) (hfront : front ≠ [])
    (rest : List Char) :
    word? word (front ++ (head ++ rest)) = (word? word front).map (· ++ (head ++ rest)) :=
  h.after?_append hfront rest

end Apart

theorem after?_concat (part next s : List Char) :
    after? (part ++ next) s = (after? part s).bind (after? next) := by
  induction part generalizing s with
  | nil => rfl
  | cons c part ih =>
    cases s with
    | nil => rfl
    | cons d s =>
      rw [List.cons_append, after?, after?]
      split
      · exact ih s
      · rfl

/-- A word that is made of two is read as the one and then the other. -/
theorem word?_concat (word next : String) (s : List Char) :
    word? (word ++ next) s = (word? word s).bind (word? next) := by
  rw [word?, String.toList_append, after?_concat]
  rfl

section Everywhere

variable {start : List Char} {skip : Nat}

/-- What a text starts with after a rule, it started with before, if the rule writes something else
first. -/
theorem Replacer.starts_of_everywhere
    (h : ∀ {before s replacement rest}, rule before s = some (replacement, rest) →
      ∃ c more, replacement = c :: more ∧ c ∉ start)
    (hstart : start <+: everywhere rule before 0 s) : start <+: s := by
  induction start generalizing before s with
  | nil => exact List.nil_prefix
  | cons d start ih =>
    cases s with
    | nil => exact hstart
    | cons c s =>
      rw [everywhere] at hstart
      cases hrule : rule before (c :: s) with
      | some pair =>
        rw [hrule] at hstart
        obtain ⟨e, more, hmore, he⟩ := h hrule
        dsimp only at hstart
        rw [hmore, List.cons_append, List.cons_prefix_cons] at hstart
        exact absurd hstart.1.symm (List.ne_of_not_mem_cons he)
      | none =>
        rw [hrule] at hstart
        dsimp only at hstart
        rw [List.cons_prefix_cons] at hstart ⊢
        refine ⟨hstart.1, ih (fun hpair => ?_) hstart.2⟩
        obtain ⟨e, more, hmore, he⟩ := h hpair
        exact ⟨e, more, hmore, List.not_mem_of_not_mem_cons he⟩

/-- What a rule recognises nowhere in the start of a text stays there. -/
theorem Replacer.starts_everywhere
    (h : ∀ tail, tail <:+ start → tail ≠ [] → ∀ before s, rule before (tail ++ s) = none)
    (hstart : start <+: s) : start <+: everywhere rule before 0 s := by
  obtain ⟨rest, rfl⟩ := hstart
  induction start generalizing before with
  | nil => exact List.nil_prefix
  | cons c start ih =>
    have hnone := h (c :: start) (List.suffix_refl _) (by simp) before rest
    rw [List.cons_append] at hnone ⊢
    rw [everywhere, hnone]
    dsimp only
    rw [List.cons_prefix_cons]
    exact ⟨rfl, ih fun tail htail => h tail (htail.trans (List.suffix_cons c start))⟩

end Everywhere

end ComponentCompiler.Text
