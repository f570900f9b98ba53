import ComponentCompiler.SourceMap.Basic
import Mathlib.Data.List.Basic

/-!
# What looking up a place finds

`Nearest` describes the element of a list that a lookup settles on: the first one exactly at the
place, or else, of the greatest ones before it, the one stored last. The relation speaks about any
list with an order, so it carries over to parts of a list, to lists put together, and to lists
whose elements were rewritten or left out, without another look at the search itself.

`nearest_eq_some_iff` and `nearest_eq_none_iff` say that the lookup of a source map finds just
that.
-/

namespace ComponentCompiler

/-- `x` is what a lookup of `place` settles on in `xs`. Where `x` stands in the list matters: of
equal elements at the place the first counts, of equal ones before it the last. -/
inductive Nearest {α : Type} (order : α → Nat) (xs : List α) (place : Nat) (x : α) : Prop
  | hit (front back : List α) (split : xs = front ++ x :: back) (here : order x = place)
      (first : ∀ y ∈ front, order y ≠ place)
  | before (front back : List α) (split : xs = front ++ x :: back)
      (miss : ∀ y ∈ xs, order y ≠ place) (below : order x < place)
      (earlier : ∀ y ∈ front, order y < place → order y ≤ order x)
      (later : ∀ y ∈ back, order y < place → order y < order x)

namespace Nearest

variable {α β : Type} {order : α → Nat} {xs ys : List α} {place : Nat} {x : α}

theorem mem (h : Nearest order xs place x) : x ∈ xs := by
  cases h with
  | hit front back split => simp [split]
  | before front back split => simp [split]

theorem le (h : Nearest order xs place x) : order x ≤ place := by
  cases h with
  | hit _ _ _ here => omega
  | before _ _ _ _ below => omega

/-- Elements beyond the place may follow. -/
theorem append_left (h : Nearest order xs place x) (beyond : ∀ y ∈ ys, place < order y) :
    Nearest order (xs ++ ys) place x := by
  cases h with
  | hit front back split here first =>
      exact .hit front (back ++ ys) (by simp [split]) here first
  | before front back split miss below earlier later =>
      refine .before front (back ++ ys) (by simp [split]) ?_ below earlier ?_
      · intro y hy
        rcases List.mem_append.mp hy with hy | hy
        · exact miss y hy
        · have := beyond y hy
          omega
      · intro y hy hlt
        rcases List.mem_append.mp hy with hy | hy
        · exact later y hy hlt
        · have := beyond y hy
          omega

/-- Elements before the one that is found may stand in front. -/
theorem append_right (h : Nearest order ys place x) (under : ∀ y ∈ xs, order y < order x) :
    Nearest order (xs ++ ys) place x := by
  cases h with
  | hit front back split here first =>
      refine .hit (xs ++ front) back (by simp [split]) here ?_
      intro y hy
      rcases List.mem_append.mp hy with hy | hy
      · have := under y hy
        omega
      · exact first y hy
  | before front back split miss below earlier later =>
      refine .before (xs ++ front) back (by simp [split]) ?_ below ?_ later
      · intro y hy
        rcases List.mem_append.mp hy with hy | hy
        · have := under y hy
          omega
        · exact miss y hy
      · intro y hy hlt
        rcases List.mem_append.mp hy with hy | hy
        · exact Nat.le_of_lt (under y hy)
        · exact earlier y hy hlt

private theorem split_left {front back : List α} (split : xs ++ ys = front ++ x :: back)
    (absent : x ∉ ys) : ∃ back', xs = front ++ x :: back' ∧ back = back' ++ ys := by
  rcases List.append_eq_append_iff.mp split with ⟨mid, rfl, hmid⟩ | ⟨mid, rfl, hmid⟩
  · exact absurd (by simp [hmid]) absent
  · cases mid with
    | nil =>
        obtain rfl : x :: back = ys := by simpa using hmid
        exact absurd (by simp) absent
    | cons y mid =>
        obtain ⟨rfl, rfl⟩ := List.cons.inj hmid
        exact ⟨mid, rfl, rfl⟩

private theorem split_right {front back : List α} (split : xs ++ ys = front ++ x :: back)
    (absent : x ∉ xs) : ∃ front', ys = front' ++ x :: back ∧ front = xs ++ front' := by
  rcases List.append_eq_append_iff.mp split with ⟨mid, rfl, hmid⟩ | ⟨mid, rfl, hmid⟩
  · exact ⟨mid, hmid, rfl⟩
  · cases mid with
    | nil => exact ⟨[], by simpa using hmid.symm, by simp⟩
    | cons y mid =>
        obtain ⟨rfl, -⟩ := List.cons.inj hmid
        exact absurd (by simp) absent

/-- What is found in the first of two lists is found there alone. -/
theorem of_append_left (h : Nearest order (xs ++ ys) place x) (absent : x ∉ ys) :
    Nearest order xs place x := by
  cases h with
  | hit front _ split here first =>
      obtain ⟨back', rfl, -⟩ := split_left split absent
      exact .hit front back' rfl here first
  | before front _ split miss below earlier later =>
      obtain ⟨back', rfl, rfl⟩ := split_left split absent
      refine .before front back' rfl ?_ below earlier ?_
      · intro y hy
        exact miss y (List.mem_append_left _ hy)
      · intro y hy
        exact later y (List.mem_append_left _ hy)

/-- What is found in the second of two lists is found there alone. -/
theorem of_append_right (h : Nearest order (xs ++ ys) place x) (absent : x ∉ xs) :
    Nearest order ys place x := by
  cases h with
  | hit _ back split here first =>
      obtain ⟨front', rfl, rfl⟩ := split_right split absent
      exact .hit front' back rfl here fun y hy => first y (List.mem_append_right _ hy)
  | before _ back split miss below earlier later =>
      obtain ⟨front', rfl, rfl⟩ := split_right split absent
      refine .before front' back rfl ?_ below ?_ later
      · intro y hy
        exact miss y (List.mem_append_right _ hy)
      · intro y hy
        exact earlier y (List.mem_append_right _ hy)

/-- Leaving out other elements does not change what is found, nor does rewriting the elements at
a fixed distance. -/
theorem filterMap {order' : β → Nat} {f : α → Option β} {d : Nat} {y : β}
    (h : Nearest order xs place x) (kept : f x = some y)
    (moved : ∀ a b, f a = some b → a ∈ xs → order' b = order a + d) :
    Nearest order' (xs.filterMap f) (place + d) y := by
  have hxy : order' y = order x + d := moved x y kept h.mem
  cases h with
  | hit front back split here first =>
      subst split
      refine .hit (front.filterMap f) (back.filterMap f) (by simp [kept]) (by omega) ?_
      intro b hb
      obtain ⟨a, ha, hab⟩ := List.mem_filterMap.mp hb
      have := first a ha
      have := moved a b hab (by simp [ha])
      omega
  | before front back split miss below earlier later =>
      subst split
      refine .before (front.filterMap f) (back.filterMap f) (by simp [kept]) ?_ (by omega) ?_ ?_
      · intro b hb
        obtain ⟨a, ha, hab⟩ := List.mem_filterMap.mp hb
        have := miss a ha
        have := moved a b hab ha
        omega
      · intro b hb hlt
        obtain ⟨a, ha, hab⟩ := List.mem_filterMap.mp hb
        have := moved a b hab (by simp [ha])
        have := earlier a ha (by omega)
        omega
      · intro b hb hlt
        obtain ⟨a, ha, hab⟩ := List.mem_filterMap.mp hb
        have := moved a b hab (by simp [ha])
        have := later a ha (by omega)
        omega

/-- Rewriting every element at a fixed distance moves what is found. -/
theorem map_iff {order' : β → Nat} {f : α → β} {d : Nat} {y : β}
    (moved : ∀ a ∈ xs, order' (f a) = order a + d) :
    Nearest order' (xs.map f) (place + d) y ↔ ∃ a, Nearest order xs place a ∧ f a = y := by
  constructor
  · intro h
    cases h with
    | hit _ _ split here first =>
        obtain ⟨front, rest, rfl, rfl, hrest⟩ := List.map_eq_append_iff.mp split
        obtain ⟨a, back, rfl, rfl, rfl⟩ := List.map_eq_cons_iff.mp hrest
        have hmoved := moved a (by simp)
        refine ⟨a, .hit front back rfl (by omega) ?_, rfl⟩
        intro b hb
        have := first (f b) (List.mem_map_of_mem hb)
        have := moved b (by simp [hb])
        omega
    | before _ _ split miss below earlier later =>
        obtain ⟨front, rest, rfl, rfl, hrest⟩ := List.map_eq_append_iff.mp split
        obtain ⟨a, back, rfl, rfl, rfl⟩ := List.map_eq_cons_iff.mp hrest
        have hmoved := moved a (by simp)
        refine ⟨a, .before front back rfl ?_ (by omega) ?_ ?_, rfl⟩
        · intro b hb
          have := miss (f b) (List.mem_map_of_mem hb)
          have := moved b hb
          omega
        · intro b hb hlt
          have hb' := moved b (by simp [hb])
          have := earlier (f b) (List.mem_map_of_mem hb) (by omega)
          omega
        · intro b hb hlt
          have hb' := moved b (by simp [hb])
          have := later (f b) (List.mem_map_of_mem hb) (by omega)
          omega
  · rintro ⟨a, h, rfl⟩
    rw [← List.filterMap_eq_map]
    refine h.filterMap (f := some ∘ f) rfl ?_
    rintro b c hbc hb
    obtain rfl : f b = c := by simpa using hbc
    exact moved b hb

end Nearest

namespace SourceMap

/-- Going through mappings from a best one so far either keeps it or ends at the last of the
greatest mappings, which is then not less. -/
theorem foldl_later_eq_some_iff {ms : List Mapping} {best m : Mapping} :
    ms.foldl later (some best) = some m ↔
      (m = best ∧ ∀ n ∈ ms, n.order < best.order) ∨
      ∃ front back, ms = front ++ m :: back ∧ best.order ≤ m.order ∧
        (∀ n ∈ front, n.order ≤ m.order) ∧ ∀ n ∈ back, n.order < m.order := by
  induction ms generalizing best with
  | nil => simp [eq_comm]
  | cons x ms ih =>
      simp only [List.foldl_cons, later]
      by_cases hx : best.order ≤ x.order
      · rw [if_pos hx, ih]
        constructor
        · rintro (⟨rfl, hall⟩ | ⟨front, back, rfl, hle, earlier, behind⟩)
          · exact .inr ⟨[], ms, rfl, hx, by simp, hall⟩
          · refine .inr ⟨x :: front, back, rfl, Nat.le_trans hx hle, ?_, behind⟩
            simpa using ⟨hle, earlier⟩
        · rintro (⟨rfl, hall⟩ | ⟨front, back, split, hle, earlier, behind⟩)
          · have := hall x (by simp)
            omega
          · cases front with
            | nil =>
                obtain ⟨rfl, rfl⟩ := List.cons.inj split
                exact .inl ⟨rfl, behind⟩
            | cons y front =>
                obtain ⟨rfl, rfl⟩ := List.cons.inj split
                exact .inr ⟨front, back, rfl, earlier x (by simp),
                  fun n hn => earlier n (by simp [hn]), behind⟩
      · rw [if_neg hx, ih]
        constructor
        · rintro (⟨rfl, hall⟩ | ⟨front, back, rfl, hle, earlier, behind⟩)
          · refine .inl ⟨rfl, ?_⟩
            simpa using ⟨by omega, hall⟩
          · refine .inr ⟨x :: front, back, rfl, hle, ?_, behind⟩
            simpa using ⟨by omega, earlier⟩
        · rintro (⟨rfl, hall⟩ | ⟨front, back, split, hle, earlier, behind⟩)
          · exact .inl ⟨rfl, fun n hn => hall n (by simp [hn])⟩
          · cases front with
            | nil =>
                obtain ⟨rfl, rfl⟩ := List.cons.inj split
                exact absurd hle hx
            | cons y front =>
                obtain ⟨rfl, rfl⟩ := List.cons.inj split
                exact .inr ⟨front, back, rfl, hle, fun n hn => earlier n (by simp [hn]), behind⟩

/-- The last of the greatest mappings, as it is found from left to right. -/
theorem foldl_later_none_eq_some_iff {ms : List Mapping} {m : Mapping} :
    ms.foldl later none = some m ↔
      ∃ front back, ms = front ++ m :: back ∧
        (∀ n ∈ front, n.order ≤ m.order) ∧ ∀ n ∈ back, n.order < m.order := by
  cases ms with
  | nil => simp
  | cons x ms =>
      simp only [List.foldl_cons, later, foldl_later_eq_some_iff]
      constructor
      · rintro (⟨rfl, hall⟩ | ⟨front, back, rfl, hle, earlier, behind⟩)
        · exact ⟨[], ms, rfl, by simp, hall⟩
        · exact ⟨x :: front, back, rfl, by simpa using ⟨hle, earlier⟩, behind⟩
      · rintro ⟨front, back, split, earlier, behind⟩
        cases front with
        | nil =>
            obtain ⟨rfl, rfl⟩ := List.cons.inj split
            exact .inl ⟨rfl, behind⟩
        | cons y front =>
            obtain ⟨rfl, rfl⟩ := List.cons.inj split
            exact .inr ⟨front, back, rfl, earlier x (by simp),
              fun n hn => earlier n (by simp [hn]), behind⟩

/-- A list has a greatest mapping unless it is empty. -/
theorem foldl_later_eq_none_iff {ms : List Mapping} :
    ms.foldl later none = none ↔ ms = [] := by
  suffices h : ∀ (ms : List Mapping) (b : Mapping), ms.foldl later (some b) ≠ none by
    cases ms with
    | nil => simp
    | cons m ms => simpa [later] using h ms m
  intro ms
  induction ms with
  | nil => simp
  | cons m ms ih =>
      intro b
      simp only [List.foldl_cons, later]
      split <;> exact ih _

private theorem filter_split {ms front back : List Mapping} {m : Mapping} {p : Mapping → Bool}
    (h : ms.filter p = front ++ m :: back) :
    ∃ front' back', ms = front' ++ m :: back' ∧ p m ∧
      front'.filter p = front ∧ back'.filter p = back := by
  obtain ⟨l₁, l₂, rfl, rfl, h₂⟩ := List.filter_eq_append_iff.mp h
  obtain ⟨l₃, l₄, rfl, hnone, hp, rfl⟩ := List.filter_eq_cons_iff.mp h₂
  exact ⟨l₁ ++ l₃, l₄, by simp, hp, by simpa using hnone, rfl⟩

/-- The lookup finds what `Nearest` describes, and nothing else. -/
theorem nearest_eq_some_iff {ms : List Mapping} {place : Nat} {m : Mapping} :
    nearest ms place = some m ↔ Nearest Mapping.order ms place m := by
  unfold nearest
  cases hfind : ms.find? fun m => m.order == place with
  | some found =>
      constructor
      · rintro ⟨⟩
        obtain ⟨here, front, back, split, first⟩ := List.find?_eq_some_iff_append.mp hfind
        exact .hit front back split (by simpa using here) (by simpa using first)
      · intro h
        cases h with
        | hit front back split here first =>
            have hm : ms.find? (fun m => m.order == place) = some m :=
              List.find?_eq_some_iff_append.mpr ⟨by simpa using here, front, back, split,
                by simpa using first⟩
            rw [← hm, hfind]
        | before _ _ _ miss =>
            have here := List.find?_some hfind
            exact absurd (by simpa using here) (miss found (List.mem_of_find?_eq_some hfind))
  | none =>
      have miss : ∀ n ∈ ms, n.order ≠ place := by simpa using hfind
      simp only [foldl_later_none_eq_some_iff]
      constructor
      · rintro ⟨front, back, split, earlier, behind⟩
        obtain ⟨front', back', rfl, hp, rfl, rfl⟩ := filter_split split
        simp only [decide_eq_true_eq] at hp
        refine .before front' back' rfl miss hp ?_ ?_
        · exact fun n hn hlt => earlier n (by simpa using ⟨hn, hlt⟩)
        · exact fun n hn hlt => behind n (by simpa using ⟨hn, hlt⟩)
      · intro h
        cases h with
        | hit _ _ split here => exact absurd here (miss m (by simp [split]))
        | before front back split _ below earlier later =>
            refine ⟨front.filter fun n => n.order < place, back.filter fun n => n.order < place,
              by simp [split, below], ?_, ?_⟩
            · intro n hn
              simp only [List.mem_filter, decide_eq_true_eq] at hn
              exact earlier n hn.1 hn.2
            · intro n hn
              simp only [List.mem_filter, decide_eq_true_eq] at hn
              exact later n hn.1 hn.2

/-- The lookup finds nothing where every mapping starts beyond the place. -/
theorem nearest_eq_none_iff {ms : List Mapping} {place : Nat} :
    nearest ms place = none ↔ ∀ m ∈ ms, place < m.order := by
  unfold nearest
  cases hfind : ms.find? fun m => m.order == place with
  | some found =>
      simp only [reduceCtorEq, false_iff]
      intro h
      have := h found (List.mem_of_find?_eq_some hfind)
      have here := List.find?_some hfind
      simp only [beq_iff_eq] at here
      omega
  | none =>
      have miss : ∀ n ∈ ms, n.order ≠ place := by simpa using hfind
      simp only [foldl_later_eq_none_iff, List.filter_eq_nil_iff, decide_eq_true_eq]
      constructor
      · intro h m hm
        have := h m hm
        have := miss m hm
        omega
      · intro h m hm
        have := h m hm
        omega

end SourceMap
end ComponentCompiler
