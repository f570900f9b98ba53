import ComponentCompiler.Keyed

/-!
# Lists of named values, sorted or not

Where every key stands once, the order of the pairs does not count (`get?_of_perm`), and sorting
only moves them (`sorted_perm`). Lists whose keys ascend stay so when pairs are inserted
(`Ascending.insert`), and sorting leaves them as they are (`Ascending.sorted_eq`).
-/

namespace ComponentCompiler.Keyed

variable {α : Type} {key : String} {pairs more : List (String × α)}

section Keys

theorem mem_of_get? {value : α} (h : get? key pairs = some value) : (key, value) ∈ pairs := by
  induction pairs with
  | nil => cases h
  | cons pair rest ih =>
    obtain ⟨k, v⟩ := pair
    rw [get?_cons] at h
    split at h
    · rename_i heq
      cases h
      rw [heq]
      exact List.mem_cons_self
    · exact List.mem_cons_of_mem _ (ih h)

theorem isSome_get?_iff : (get? key pairs).isSome ↔ key ∈ pairs.map (·.1) := by
  induction pairs with
  | nil => simp
  | cons pair rest ih =>
    obtain ⟨k, v⟩ := pair
    rw [get?_cons, List.map_cons, List.mem_cons]
    split
    · simp [*]
    · simp [*]

theorem get?_map {β : Type} (key : String) (f : α → β) (pairs : List (String × α)) :
    get? key (pairs.map fun pair => (pair.1, f pair.2)) = (get? key pairs).map f := by
  induction pairs with
  | nil => rfl
  | cons pair rest ih =>
    obtain ⟨k, v⟩ := pair
    rw [List.map_cons, get?_cons, get?_cons, ih]
    split <;> rfl

/-- A sorted list has no other keys than the list that was sorted. -/
theorem mem_keys_of_sorted (h : (get? key (sorted pairs)).isSome) : key ∈ pairs.map (·.1) := by
  have hfold : ∀ (pairs list : List (String × α)),
      (get? key (pairs.foldl (fun list pair => insert pair.1 pair.2 list) list)).isSome →
        (get? key list).isSome ∨ key ∈ pairs.map (·.1) := by
    intro pairs
    induction pairs with
    | nil => exact fun _ h => .inl h
    | cons pair rest ih =>
      intro list h
      rw [List.map_cons, List.mem_cons]
      rcases ih _ h with h | h
      · rw [get?_insert] at h
        split at h
        · exact .inr (.inl ‹_›)
        · exact .inl h
      · exact .inr (.inr h)
  rcases hfold pairs [] h with h | h
  · cases h
  · exact h

end Keys

section Order

theorem get?_append (key : String) (pairs more : List (String × α)) :
    get? key (pairs ++ more) = (get? key pairs).or (get? key more) := by
  induction pairs with
  | nil => rfl
  | cons pair pairs ih =>
      obtain ⟨k, v⟩ := pair
      rw [List.cons_append, get?_cons, get?_cons, ih]
      split <;> rfl

/-- Where keys stand once, the value of a key is the one of its pair. -/
theorem get?_eq_some_iff_mem (h : (pairs.map (·.1)).Nodup) {key : String} {value : α} :
    get? key pairs = some value ↔ (key, value) ∈ pairs := by
  induction pairs with
  | nil => simp
  | cons pair pairs ih =>
      obtain ⟨k, v⟩ := pair
      obtain ⟨hk, hnodup⟩ := List.nodup_cons.mp h
      rw [get?_cons, List.mem_cons, Prod.mk.injEq]
      split
      · rename_i heq
        subst heq
        have hmem : (key, value) ∉ pairs := fun hmem => hk (List.mem_map.mpr ⟨_, hmem, rfl⟩)
        simp [hmem, eq_comm]
      · rename_i hne
        rw [ih hnodup]
        simp [hne]

theorem get?_of_perm (h : (pairs.map (·.1)).Nodup) (hperm : more.Perm pairs) (key : String) :
    get? key more = get? key pairs := by
  have h' : (more.map (·.1)).Nodup := (hperm.map _).nodup_iff.mpr h
  ext value
  rw [get?_eq_some_iff_mem h, get?_eq_some_iff_mem h', hperm.mem_iff]

theorem get?_toList {β : Type} (key k : String) (f : β → α) (found : Option β) :
    get? key (found.map fun b => (k, f b)).toList = if key = k then found.map f else none := by
  cases found with
  | none => exact (ite_self none).symm
  | some b => rfl

theorem insert_perm {key : String} (hkey : key ∉ pairs.map (·.1)) (value : α) :
    (insert key value pairs).Perm ((key, value) :: pairs) := by
  induction pairs with
  | nil => exact .refl _
  | cons pair pairs ih =>
      obtain ⟨k, v⟩ := pair
      rw [List.map_cons, List.mem_cons, not_or] at hkey
      rw [insert, if_neg hkey.1]
      split
      · exact .refl _
      · exact ((ih hkey.2).cons _).trans (.swap _ _ _)

/-- Sorting only moves pairs whose keys stand once. -/
theorem sorted_perm (h : (pairs.map (·.1)).Nodup) : (sorted pairs).Perm pairs := by
  have hfold : ∀ (pairs list : List (String × α)), ((list ++ pairs).map (·.1)).Nodup →
      (pairs.foldl (fun list pair => insert pair.1 pair.2 list) list).Perm (list ++ pairs) := by
    intro pairs
    induction pairs with
    | nil => exact fun list _ => .of_eq (List.append_nil list).symm
    | cons pair pairs ih =>
        intro list hnodup
        have hmiddle : (list ++ pair :: pairs).Perm (pair :: (list ++ pairs)) := List.perm_middle
        have hnodup' := (hmiddle.map (·.1)).nodup_iff.mp hnodup
        have hfresh : pair.1 ∉ list.map (·.1) := by
          intro hmem
          rw [List.map_cons, List.nodup_cons, List.map_append, List.mem_append] at hnodup'
          exact hnodup'.1 (.inl hmem)
        have hinsert := (insert_perm hfresh pair.2).append_right pairs
        have hrest : ((insert pair.1 pair.2 list ++ pairs).map (·.1)).Nodup :=
          (hinsert.map _).nodup_iff.mpr hnodup'
        exact (ih _ hrest).trans (hinsert.trans hmiddle.symm)
  exact hfold pairs [] h

end Order

section Ascending

/-- The keys of a list ascend. -/
def Ascending (pairs : List (String × α)) : Prop := pairs.Pairwise fun a b => a.1 < b.1

theorem Ascending.nodup (h : Ascending pairs) : (pairs.map (·.1)).Nodup := by
  refine List.pairwise_map.mpr (h.imp fun hlt heq => ?_)
  rw [heq] at hlt
  exact String.lt_irrefl _ hlt

theorem mem_insert {pair : String × α} {value : α} (h : pair ∈ insert key value pairs) :
    pair = (key, value) ∨ pair ∈ pairs := by
  induction pairs with
  | nil => exact .inl (List.mem_singleton.mp h)
  | cons first rest ih =>
      obtain ⟨k, v⟩ := first
      rw [insert] at h
      split at h
      · exact (List.mem_cons.mp h).imp_right (List.mem_cons_of_mem _)
      · split at h
        · exact List.mem_cons.mp h
        · rcases List.mem_cons.mp h with rfl | h
          · exact .inr List.mem_cons_self
          · exact (ih h).imp_right (List.mem_cons_of_mem _)

/-- A pair is put where its key belongs. -/
theorem Ascending.insert (h : Ascending pairs) (key : String) (value : α) :
    Ascending (insert key value pairs) := by
  induction pairs with
  | nil => exact List.pairwise_singleton _ _
  | cons first rest ih =>
      obtain ⟨k, v⟩ := first
      obtain ⟨hfirst, hrest⟩ := List.pairwise_cons.mp h
      rw [Keyed.insert]
      split
      · rename_i heq
        subst heq
        exact List.pairwise_cons.mpr ⟨hfirst, hrest⟩
      · split
        · rename_i hlt
          refine List.pairwise_cons.mpr ⟨fun pair hpair => ?_, h⟩
          rcases List.mem_cons.mp hpair with rfl | hpair
          · exact hlt
          · exact String.lt_trans hlt (hfirst pair hpair)
        · rename_i hne hge
          have hlt : k < key := by
            refine Decidable.byContradiction fun hnot => hne ?_
            exact String.le_antisymm (String.not_lt.mp hnot) (String.not_lt.mp hge)
          refine List.pairwise_cons.mpr ⟨fun pair hpair => ?_, ih hrest⟩
          rcases mem_insert hpair with rfl | hpair
          · exact hlt
          · exact hfirst pair hpair

theorem ascending_sorted (pairs : List (String × α)) : Ascending (sorted pairs) := by
  have hfold : ∀ (pairs list : List (String × α)), Ascending list →
      Ascending (pairs.foldl (fun list pair => Keyed.insert pair.1 pair.2 list) list) := by
    intro pairs
    induction pairs with
    | nil => exact fun list h => h
    | cons pair pairs ih => exact fun list h => ih _ (h.insert pair.1 pair.2)
  exact hfold pairs [] List.Pairwise.nil

theorem mem_of_mem_sorted {pair : String × α} (h : pair ∈ sorted pairs) : pair ∈ pairs := by
  have hfold : ∀ (pairs list : List (String × α)),
      pair ∈ pairs.foldl (fun list pair => Keyed.insert pair.1 pair.2 list) list →
        pair ∈ list ∨ pair ∈ pairs := by
    intro pairs
    induction pairs with
    | nil => exact fun list h => .inl h
    | cons first rest ih =>
        intro list h
        rcases ih _ h with h | h
        · rcases mem_insert h with rfl | h
          · exact .inr List.mem_cons_self
          · exact .inl h
        · exact .inr (List.mem_cons_of_mem _ h)
  exact (hfold pairs [] h).resolve_left List.not_mem_nil

/-- A pair whose key is greater than all others is put at the end. -/
theorem insert_of_forall_lt (h : ∀ pair ∈ pairs, pair.1 < key) (value : α) :
    Keyed.insert key value pairs = pairs ++ [(key, value)] := by
  induction pairs with
  | nil => rfl
  | cons first rest ih =>
      obtain ⟨k, v⟩ := first
      have hlt : k < key := h (k, v) List.mem_cons_self
      have hne : key ≠ k := fun heq => String.lt_irrefl k (heq ▸ hlt)
      rw [Keyed.insert, if_neg hne, if_neg (String.lt_asymm hlt),
        ih fun pair hpair => h pair (List.mem_cons_of_mem _ hpair), List.cons_append]

/-- A list whose keys ascend is sorted already. -/
theorem Ascending.sorted_eq (h : Ascending pairs) : sorted pairs = pairs := by
  have hfold : ∀ (pairs list : List (String × α)), Ascending (list ++ pairs) →
      pairs.foldl (fun list pair => Keyed.insert pair.1 pair.2 list) list = list ++ pairs := by
    intro pairs
    induction pairs with
    | nil => exact fun list _ => (List.append_nil list).symm
    | cons pair pairs ih =>
        intro list h
        have hbelow : ∀ other ∈ list, other.1 < pair.1 := fun other hother =>
          (List.pairwise_append.mp h).2.2 other hother pair List.mem_cons_self
        rw [List.foldl_cons, insert_of_forall_lt hbelow, ih _ (by simpa using h)]
        simp
  exact hfold pairs [] h

/-- Sorting forgets the order of pairs whose keys stand once. -/
theorem sorted_eq_of_perm (h : (pairs.map (·.1)).Nodup) (hperm : more.Perm pairs) :
    sorted more = sorted pairs := by
  have hmore : (more.map (·.1)).Nodup := (hperm.map _).nodup_iff.mpr h
  refine List.Perm.eq_of_pairwise (fun a b _ _ hab hba => absurd hab (String.lt_asymm hba))
    (ascending_sorted more) (ascending_sorted pairs) ?_
  exact (sorted_perm hmore).trans (hperm.trans (sorted_perm h).symm)

end Ascending

end ComponentCompiler.Keyed
