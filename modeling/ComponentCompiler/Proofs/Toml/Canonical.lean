import ComponentCompiler.Toml.Printer
import ComponentCompiler.Proofs.Keyed

/-!
# Canonical values of configuration documents

Two tables with the same entries in different orders have one canonical form, provided that no
key stands twice in them. So a value has the same canonical form before and after its entries are
put in the order in which they are written (`canonical_grouped`). The canonical form of a value is
its own canonical form (`canonical_canonical`), and in it no key stands twice
(`distinct_canonical`).
-/

namespace ComponentCompiler.Toml

/-- What holds of an array or a table if it holds of the values in it, and of all other values,
holds of every value. -/
@[elab_as_elim]
theorem values {P : Toml → Prop} (text : ∀ s, P (.text s)) (integer : ∀ i, P (.integer i))
    (float : ∀ x, P (.float x)) (boolean : ∀ b, P (.boolean b)) (date : ∀ d, P (.date d))
    (array : ∀ items, (∀ item ∈ items, P item) → P (.array items))
    (table : ∀ entries, (∀ entry ∈ entries, P entry.2) → P (.table entries)) (v : Toml) : P v :=
  @Toml.rec P (fun items => ∀ item ∈ items, P item) (fun entries => ∀ entry ∈ entries, P entry.2)
    (fun entry => P entry.2) text integer float boolean date array table nofun
    (fun _ _ hitem hitems => List.forall_mem_cons.mpr ⟨hitem, hitems⟩) nofun
    (fun _ _ hentry hentries => List.forall_mem_cons.mpr ⟨hentry, hentries⟩) (fun _ _ h => h) v

section Equality

mutual

/-- Whether two values are the same in every part: unlike `same`, this tells the two zeros apart
and takes an undefined number for itself. -/
def agrees : Toml → Toml → Bool
  | text a, text b => a == b
  | integer a, integer b => a == b
  | float a, float b => a == b
  | boolean a, boolean b => a == b
  | date a, date b => a == b
  | array a, array b => agreesItems a b
  | table a, table b => agreesEntries a b
  | _, _ => false

def agreesItems : List Toml → List Toml → Bool
  | [], [] => true
  | a :: as, b :: bs => agrees a b && agreesItems as bs
  | _, _ => false

def agreesEntries : List (String × Toml) → List (String × Toml) → Bool
  | [], [] => true
  | (k, a) :: as, (l, b) :: bs => k == l && agrees a b && agreesEntries as bs
  | _, _ => false

end

theorem agreesItems_iff {items : List Toml} (h : ∀ item ∈ items, ∀ v, agrees item v ↔ item = v)
    (more : List Toml) : agreesItems items more ↔ items = more := by
  induction items generalizing more with
  | nil => cases more <;> simp [agreesItems]
  | cons item items ih =>
    obtain ⟨hitem, hitems⟩ := List.forall_mem_cons.mp h
    cases more with
    | nil => simp [agreesItems]
    | cons other more =>
      rw [agreesItems, Bool.and_eq_true, hitem other, ih hitems more, List.cons.injEq]

theorem agreesEntries_iff {entries : List (String × Toml)}
    (h : ∀ entry ∈ entries, ∀ v, agrees entry.2 v ↔ entry.2 = v) (more : List (String × Toml)) :
    agreesEntries entries more ↔ entries = more := by
  induction entries generalizing more with
  | nil => cases more <;> simp [agreesEntries]
  | cons entry entries ih =>
    obtain ⟨key, value⟩ := entry
    obtain ⟨hentry, hentries⟩ := List.forall_mem_cons.mp h
    cases more with
    | nil => simp [agreesEntries]
    | cons other more =>
      obtain ⟨otherKey, otherValue⟩ := other
      rw [agreesEntries, Bool.and_eq_true, Bool.and_eq_true, beq_iff_eq, hentry otherValue,
        ih hentries more, List.cons.injEq, Prod.mk.injEq]

theorem agrees_iff (a b : Toml) : agrees a b ↔ a = b := by
  induction a using values generalizing b with
  | array items ih => cases b <;> simp [agrees, agreesItems_iff ih]
  | table entries ih => cases b <;> simp [agrees, agreesEntries_iff ih]
  | _ => cases b <;> simp [agrees]

instance : DecidableEq Toml := fun a b => decidable_of_iff (agrees a b) (agrees_iff a b)

end Equality

section Lists

theorem canonicalItems_eq (items : List Toml) : canonicalItems items = items.map canonical := by
  induction items with
  | nil => rfl
  | cons item items ih => rw [canonicalItems, ih, List.map_cons]

theorem canonicalEntries_eq (entries : List (String × Toml)) :
    canonicalEntries entries = entries.map fun entry => (entry.1, entry.2.canonical) := by
  induction entries with
  | nil => rfl
  | cons entry entries ih => rw [canonicalEntries, ih, List.map_cons]

theorem groupedItems_eq (items : List Toml) : groupedItems items = items.map grouped := by
  induction items with
  | nil => rfl
  | cons item items ih => rw [groupedItems, ih, List.map_cons]

theorem groupedEntries_eq (entries : List (String × Toml)) :
    groupedEntries entries = entries.map fun entry => (entry.1, entry.2.grouped) := by
  induction entries with
  | nil => rfl
  | cons entry entries ih => rw [groupedEntries, ih, List.map_cons]

@[simp] theorem keys_canonicalEntries (entries : List (String × Toml)) :
    (canonicalEntries entries).map (·.1) = entries.map (·.1) := by
  rw [canonicalEntries_eq, List.map_map]
  rfl

@[simp] theorem keys_groupedEntries (entries : List (String × Toml)) :
    (groupedEntries entries).map (·.1) = entries.map (·.1) := by
  rw [groupedEntries_eq, List.map_map]
  rfl

end Lists

section Canonical

/-- An entry of the canonical form of a table is the canonical form of one of its entries. -/
theorem exists_of_mem_canonical {entries : List (String × Toml)} {entry : String × Toml}
    (h : entry ∈ Keyed.sorted (canonicalEntries entries)) :
    ∃ value, (entry.1, value) ∈ entries ∧ entry.2 = value.canonical := by
  have hmem := Keyed.mem_of_mem_sorted h
  rw [canonicalEntries_eq] at hmem
  obtain ⟨⟨key, value⟩, hvalue, rfl⟩ := List.mem_map.mp hmem
  exact ⟨value, hvalue, rfl⟩

/-- Entries in canonical form are those of a table that is its own canonical form. -/
theorem sorted_canonicalEntries {entries : List (String × Toml)}
    (hsorted : Keyed.Ascending entries) (h : ∀ entry ∈ entries, entry.2.canonical = entry.2) :
    Keyed.sorted (canonicalEntries entries) = entries := by
  have hentries : canonicalEntries entries = entries := by
    rw [canonicalEntries_eq]
    calc entries.map (fun entry => (entry.1, entry.2.canonical))
        = entries.map id := List.map_congr_left fun entry hentry => by rw [h entry hentry]; rfl
      _ = entries := List.map_id entries
  rw [hentries, hsorted.sorted_eq]

theorem canonical_canonical (v : Toml) : v.canonical.canonical = v.canonical := by
  induction v using values with
  | array items ih =>
    rw [canonical, canonical, canonicalItems_eq, canonicalItems_eq, List.map_map]
    exact congrArg array (List.map_congr_left ih)
  | table entries ih =>
    rw [canonical, canonical, sorted_canonicalEntries (Keyed.ascending_sorted _)]
    intro entry hentry
    obtain ⟨value, hvalue, hcanonical⟩ := exists_of_mem_canonical hentry
    rw [hcanonical]
    exact ih _ hvalue
  | _ => rfl

end Canonical

section Distinct

/-- In every table of a value each key stands once. -/
inductive Distinct : Toml → Prop where
  | text (s : String) : Distinct (.text s)
  | integer (i : Int) : Distinct (.integer i)
  | float (x : TomlFloat) : Distinct (.float x)
  | boolean (b : Bool) : Distinct (.boolean b)
  | date (d : TomlDate) : Distinct (.date d)
  | array {items : List Toml} (h : ∀ item ∈ items, Distinct item) : Distinct (.array items)
  | table {entries : List (String × Toml)} (hkeys : (entries.map (·.1)).Nodup)
      (h : ∀ entry ∈ entries, Distinct entry.2) : Distinct (.table entries)

theorem Distinct.of_item {items : List Toml} (h : Distinct (.array items)) :
    ∀ item ∈ items, Distinct item := by
  cases h with
  | array h => exact h

theorem Distinct.keys {entries : List (String × Toml)} (h : Distinct (.table entries)) :
    (entries.map (·.1)).Nodup := by
  cases h with
  | table hkeys => exact hkeys

theorem Distinct.of_entry {entries : List (String × Toml)} (h : Distinct (.table entries)) :
    ∀ entry ∈ entries, Distinct entry.2 := by
  cases h with
  | table _ h => exact h

theorem distinct_canonical (v : Toml) : Distinct v.canonical := by
  induction v using values with
  | text s => exact .text s
  | integer i => exact .integer i
  | float x => exact .float x
  | boolean b => exact .boolean b
  | date d => exact .date d
  | array items ih =>
    rw [canonical, canonicalItems_eq]
    refine .array fun item hitem => ?_
    obtain ⟨value, hvalue, rfl⟩ := List.mem_map.mp hitem
    exact ih value hvalue
  | table entries ih =>
    rw [canonical]
    refine .table (Keyed.ascending_sorted _).nodup fun entry hentry => ?_
    obtain ⟨value, hvalue, hcanonical⟩ := exists_of_mem_canonical hentry
    rw [hcanonical]
    exact ih _ hvalue

end Distinct

section Grouped

variable {entries more : List (String × Toml)}

/-- The order of the entries of a table does not count. -/
theorem canonical_table_of_perm (hkeys : (entries.map (·.1)).Nodup) (hperm : more.Perm entries) :
    (table more).canonical = (table entries).canonical := by
  have hcanonical : (canonicalEntries more).Perm (canonicalEntries entries) := by
    rw [canonicalEntries_eq, canonicalEntries_eq]
    exact hperm.map _
  rw [canonical, canonical,
    Keyed.sorted_eq_of_perm ((keys_canonicalEntries entries).symm ▸ hkeys) hcanonical]

/-- The three groups in which the entries of a table are written are all of them. -/
theorem perm_groups (entries : List (String × Toml)) :
    ((entries.filter fun entry => !entry.2.isTable && !entry.2.holdsTable) ++
      (entries.filter fun entry => entry.2.holdsTable) ++
      (entries.filter fun entry => entry.2.isTable)).Perm entries := by
  let others := entries.filter fun entry => !entry.2.isTable
  have hlists : others.filter (fun entry => entry.2.holdsTable) =
      entries.filter fun entry => entry.2.holdsTable := by
    rw [List.filter_filter]
    refine List.filter_congr fun entry _ => ?_
    cases entry.2 <;> simp [isTable, holdsTable]
  have hplain : others.filter (fun entry => !entry.2.holdsTable) =
      entries.filter fun entry => !entry.2.isTable && !entry.2.holdsTable := by
    rw [List.filter_filter]
    exact List.filter_congr fun entry _ => Bool.and_comm _ _
  have hothers := List.filter_append_perm (fun entry => entry.2.holdsTable) others
  rw [hlists, hplain] at hothers
  have htables := List.filter_append_perm (fun entry => entry.2.isTable) entries
  exact (((List.perm_append_comm.trans hothers).append_right _).trans
    List.perm_append_comm).trans htables

theorem canonicalEntries_groupedEntries
    (h : ∀ entry ∈ entries, entry.2.grouped.canonical = entry.2.canonical) :
    canonicalEntries (groupedEntries entries) = canonicalEntries entries := by
  rw [groupedEntries_eq, canonicalEntries_eq, canonicalEntries_eq, List.map_map]
  exact List.map_congr_left fun entry hentry => congrArg (entry.1, ·) (h entry hentry)

/-- Putting the entries of every table in the order in which they are written does not change the
canonical form. -/
theorem canonical_grouped {v : Toml} (h : v.Distinct) : v.grouped.canonical = v.canonical := by
  induction v using values with
  | array items ih =>
    rw [grouped, canonical, canonical, groupedItems_eq, canonicalItems_eq, canonicalItems_eq,
      List.map_map]
    exact congrArg array (List.map_congr_left fun item hitem =>
      ih item hitem (h.of_item item hitem))
  | table entries ih =>
    have hgrouped : canonicalEntries (groupedEntries entries) = canonicalEntries entries :=
      canonicalEntries_groupedEntries fun entry hentry => ih entry hentry (h.of_entry entry hentry)
    have hkeys : ((groupedEntries entries).map (·.1)).Nodup :=
      (keys_groupedEntries entries).symm ▸ h.keys
    calc (table entries).grouped.canonical
        = (table (groupedEntries entries)).canonical :=
          canonical_table_of_perm hkeys (perm_groups _)
      _ = (table entries).canonical := by rw [canonical, canonical, hgrouped]
  | _ => rfl

end Grouped

end ComponentCompiler.Toml
