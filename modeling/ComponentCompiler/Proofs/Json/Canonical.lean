import ComponentCompiler.Json.Basic
import ComponentCompiler.Proofs.Keyed

/-!
# Canonical values

The canonical form of a value is its own canonical form (`canonical_canonical`) and is nested no
deeper than the value (`depth_canonical_le`).
-/

namespace ComponentCompiler.Json

/-- What holds of an array or an object if it holds of the values in it, and of all other values,
holds of every value. -/
@[elab_as_elim]
theorem values {P : Json → Prop} (null : P .null) (bool : ∀ b, P (.bool b))
    (integer : ∀ i, P (.integer i)) (float : ∀ x, P (.float x)) (text : ∀ s, P (.text s))
    (array : ∀ items, (∀ item ∈ items, P item) → P (.array items))
    (object : ∀ members, (∀ member ∈ members, P member.2) → P (.object members)) (j : Json) :
    P j :=
  @Json.rec P (fun items => ∀ item ∈ items, P item) (fun members => ∀ member ∈ members, P member.2)
    (fun member => P member.2) null bool integer float text array object nofun
    (fun _ _ hitem hitems => List.forall_mem_cons.mpr ⟨hitem, hitems⟩) nofun
    (fun _ _ hmember hmembers => List.forall_mem_cons.mpr ⟨hmember, hmembers⟩) (fun _ _ h => h) j

section Lists

theorem canonicalItems_eq (items : List Json) : canonicalItems items = items.map canonical := by
  induction items with
  | nil => rfl
  | cons item items ih => rw [canonicalItems, ih, List.map_cons]

theorem canonicalMembers_eq (members : List (String × Json)) :
    canonicalMembers members = members.map fun member => (member.1, member.2.canonical) := by
  induction members with
  | nil => rfl
  | cons member members ih => rw [canonicalMembers, ih, List.map_cons]

theorem canonicalMembers_of_forall {members : List (String × Json)}
    (h : ∀ member ∈ members, member.2.canonical = member.2) :
    canonicalMembers members = members := by
  rw [canonicalMembers_eq]
  calc members.map (fun member => (member.1, member.2.canonical))
      = members.map id := List.map_congr_left fun member hmember => by rw [h member hmember]; rfl
    _ = members := List.map_id members

/-- A member of the canonical form of an object is the canonical form of one of its members. -/
theorem exists_of_mem_canonical {members : List (String × Json)} {member : String × Json}
    (h : member ∈ Keyed.sorted (canonicalMembers members)) :
    ∃ value, (member.1, value) ∈ members ∧ member.2 = value.canonical := by
  have hmem := Keyed.mem_of_mem_sorted h
  rw [canonicalMembers_eq] at hmem
  obtain ⟨⟨key, value⟩, hvalue, rfl⟩ := List.mem_map.mp hmem
  exact ⟨value, hvalue, rfl⟩

end Lists

section Depth

variable {items : List Json} {members : List (String × Json)} {bound : Nat}

theorem depthItems_le_iff : depthItems items ≤ bound ↔ ∀ item ∈ items, item.depth ≤ bound := by
  induction items with
  | nil => simp [depthItems]
  | cons item items ih => rw [depthItems, Nat.max_le, ih, List.forall_mem_cons]

theorem depthMembers_le_iff :
    depthMembers members ≤ bound ↔ ∀ member ∈ members, member.2.depth ≤ bound := by
  induction members with
  | nil => simp [depthMembers]
  | cons member members ih => rw [depthMembers, Nat.max_le, ih, List.forall_mem_cons]

theorem depth_canonical_le (j : Json) : j.canonical.depth ≤ j.depth := by
  induction j using values with
  | array items ih =>
    rw [canonical, depth, depth, canonicalItems_eq]
    refine Nat.succ_le_succ (depthItems_le_iff.mpr fun item hitem => ?_)
    obtain ⟨value, hvalue, rfl⟩ := List.mem_map.mp hitem
    exact Nat.le_trans (ih value hvalue) (depthItems_le_iff.mp (Nat.le_refl _) value hvalue)
  | object members ih =>
    rw [canonical, depth, depth]
    refine Nat.succ_le_succ (depthMembers_le_iff.mpr fun member hmember => ?_)
    obtain ⟨value, hvalue, hcanonical⟩ := exists_of_mem_canonical hmember
    rw [hcanonical]
    exact Nat.le_trans (ih _ hvalue) (depthMembers_le_iff.mp (Nat.le_refl _) _ hvalue)
  | _ => exact Nat.le_refl _

end Depth

/-- A list of members that is in canonical form stays as it is. -/
theorem sorted_canonicalMembers {members : List (String × Json)} (hsorted : Keyed.Ascending members)
    (h : ∀ member ∈ members, member.2.canonical = member.2) :
    Keyed.sorted (canonicalMembers members) = members := by
  rw [canonicalMembers_of_forall h, hsorted.sorted_eq]

theorem canonical_canonical (j : Json) : j.canonical.canonical = j.canonical := by
  induction j using values with
  | array items ih =>
    rw [canonical, canonical, canonicalItems_eq, canonicalItems_eq, List.map_map]
    exact congrArg array (List.map_congr_left ih)
  | object members ih =>
    rw [canonical, canonical, sorted_canonicalMembers (Keyed.ascending_sorted _)]
    intro member hmember
    obtain ⟨value, hvalue, hcanonical⟩ := exists_of_mem_canonical hmember
    rw [hcanonical]
    exact ih _ hvalue
  | _ => rfl

theorem canonical_ne_null {j : Json} (h : j ≠ null) : j.canonical ≠ null := by
  cases j with
  | null => exact absurd rfl h
  | _ => exact Json.noConfusion

end ComponentCompiler.Json
