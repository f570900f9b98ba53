import ComponentCompiler.Json.Record
import ComponentCompiler.Proofs.Keyed

/-!
# Members of records

An object whose keys stand once is a record with any keys (`fields?_of_nodup`), and members that
were written are read with the values that they were written for (`optional?_of_written`).
-/

namespace ComponentCompiler

namespace Json

variable {α β : Type}

theorem get?_member? (key other : String) (value : Option Json) :
    Keyed.get? key (member? other value) = if key = other then value else none := by
  cases value <;> simp [member?, Keyed.get?_cons]

theorem keys_member? (key : String) (value : Option Json) :
    ((member? key value).map (·.1)).Sublist [key] := by
  cases value <;> simp [member?]

/-- An object whose keys stand once is a record with any keys. -/
theorem fields?_of_nodup {members : Members} (h : (members.map (·.1)).Nodup)
    (keys : List String) : fields? keys (.object members) = some members := by
  have hcount : ∀ key, (members.filter fun member => member.1 == key).length ≤ 1 := by
    intro key
    have hle := List.nodup_iff_count.mp h key
    rwa [List.count, List.countP_map, List.countP_eq_length_filter] at hle
  rw [fields?, if_pos (by simp [hcount])]

theorem record?_of_nodup {members : Members} (h : (members.map (·.1)).Nodup) (shape : Shape)
    (least : Nat) : record? shape least (.object members) = some members := by
  rw [record?, fields?_of_nodup h]
  exact fun _ => Json.noConfusion

theorem required?_of_get? {members : Members} {key : String} {decode : Json → Option α}
    {x : Json} (h : Keyed.get? key members = some x) :
    members.required? key decode = decode x := by
  rw [Members.required?, h, Option.bind_some]

theorem asNatural?_integer {n limit : Nat} (h : n < limit) :
    asNatural? limit (.integer n) = some n := by
  have hbounds : (0 ≤ (n : Int) && (n : Int) < limit) = true := by
    simp only [Bool.and_eq_true, decide_eq_true_eq]
    omega
  rw [asNatural?, if_pos hbounds, Int.toNat_natCast]

/-- A member that was written is read, and so is that there was none. -/
theorem optional?_of_written {members : Members} {key : String} {decode : Json → Option α}
    {x : Option α} {f : α → Json} (hget : Keyed.get? key members = x.map f)
    (hread : ∀ v ∈ x, f v ≠ null ∧ decode (f v) = some v) :
    members.optional? key decode = some x := by
  rw [Members.optional?, hget]
  cases x with
  | none => rfl
  | some v =>
      obtain ⟨hnull, hdecode⟩ := hread v rfl
      rw [Option.map_some]
      split
      · contradiction
      · rename_i heq
        exact absurd (Option.some.inj heq) hnull
      · rename_i value _ heq
        rw [← Option.some.inj heq, hdecode]
        rfl

/-- A member that was written as null where there was none is read. -/
theorem optional?_of_nullable {members : Members} {key : String} {decode : Json → Option α}
    {x : Option α} {f : α → Json} (hget : Keyed.get? key members = some (ofOption (x.map f)))
    (hread : ∀ v ∈ x, f v ≠ null ∧ decode (f v) = some v) :
    members.optional? key decode = some x := by
  cases x with
  | none => rw [Members.optional?, hget, Option.map_none, ofOption]
  | some v => exact optional?_of_written (x := some v) hget hread

/-- What is found for a list is found for one of its items. -/
theorem exists_of_mem_mapM {decode : β → Option α} {items : List β} {values : List α}
    (h : items.mapM decode = some values) {v : α} (hv : v ∈ values) :
    ∃ item ∈ items, decode item = some v := by
  induction items generalizing values with
  | nil =>
      cases h
      cases hv
  | cons item items ih =>
      rw [List.mapM_cons] at h
      obtain ⟨first, hfirst, h⟩ := Option.bind_eq_some_iff.mp h
      obtain ⟨rest, hrest, h⟩ := Option.bind_eq_some_iff.mp h
      cases h
      cases hv with
      | head => exact ⟨item, List.mem_cons_self, hfirst⟩
      | tail _ hv =>
          obtain ⟨other, hother, hdecode⟩ := ih hrest hv
          exact ⟨other, List.mem_cons_of_mem _ hother, hdecode⟩

theorem asList?_map {values : List α} {f : α → Json} {g : α → β} {decode : Json → Option β}
    (h : ∀ v ∈ values, decode (f v) = some (g v)) :
    asList? decode (.array (values.map f)) = some (values.map g) := by
  rw [asList?]
  induction values with
  | nil => rfl
  | cons v values ih =>
      rw [List.map_cons, List.mapM_cons, h v List.mem_cons_self,
        ih fun v hv => h v (List.mem_cons_of_mem _ hv)]
      rfl

end Json
end ComponentCompiler
