import ComponentCompiler.Toml.Parser
import ComponentCompiler.Proofs.Toml.Canonical

/-!
# The keys of a document that was read

However the lines of a document build its tables, by headers, by keys with dots or as values
written in line, no key stands twice in any of them (`distinct_of_parse?`). One line puts a new
key into one table or leaves the keys as they are, in whatever table its path leads to
(`Sound.within`).
-/

namespace ComponentCompiler.Toml

namespace Node

/-- In every table of a node each key stands once. -/
inductive Distinct : Node → Prop where
  | value {v : Toml} (h : v.Distinct) : Distinct (.value v)
  | table {implied dotted : Bool} {entries : Entries} (hkeys : (entries.map (·.1)).Nodup)
      (h : ∀ entry ∈ entries, Distinct entry.2) : Distinct (.table implied dotted entries)
  | tables {items : List Entries} (hkeys : ∀ entries ∈ items, (entries.map (·.1)).Nodup)
      (h : ∀ entries ∈ items, ∀ entry ∈ entries, Distinct entry.2) : Distinct (.tables items)

/-- Each key of a table under construction stands once, and so it is in the tables in it. -/
structure Sound (entries : Entries) : Prop where
  keys : (entries.map (·.1)).Nodup
  nodes : ∀ entry ∈ entries, Distinct entry.2

variable {key : String} {node : Node} {entries entries' : Entries} {items : List Entries}

theorem distinct_table_iff {implied dotted : Bool} :
    Distinct (.table implied dotted entries) ↔ Sound entries :=
  ⟨fun h => by cases h with | table hkeys h => exact ⟨hkeys, h⟩, fun h => .table h.keys h.nodes⟩

theorem distinct_tables_iff : Distinct (.tables items) ↔ ∀ entries ∈ items, Sound entries :=
  ⟨fun h => by cases h with | tables hkeys h => exact fun entries hmem => ⟨hkeys _ hmem, h _ hmem⟩,
    fun h => .tables (fun entries hmem => (h entries hmem).keys)
      fun entries hmem => (h entries hmem).nodes⟩

section Steps

theorem Sound.nil : Sound [] := ⟨List.nodup_nil, nofun⟩

theorem Sound.distinct (h : Sound entries) (hget : Keyed.get? key entries = some node) :
    Distinct node :=
  h.nodes (key, node) (Keyed.mem_of_get? hget)

theorem Sound.filter (h : Sound entries) (p : String × Node → Bool) : Sound (entries.filter p) :=
  ⟨h.keys.sublist (List.filter_sublist.map _), fun entry hentry =>
    h.nodes entry (List.mem_filter.mp hentry).1⟩

/-- A key that stands nowhere may be put at the end. -/
theorem Sound.append (h : Sound entries) (hkey : key ∉ entries.map (·.1)) (hnode : Distinct node) :
    Sound (entries ++ [(key, node)]) where
  keys := by
    rw [List.map_append]
    refine List.nodup_append.mpr ⟨h.keys, List.pairwise_singleton _ _, fun a ha b hb heq => hkey ?_⟩
    rw [heq, List.mem_singleton.mp hb] at ha
    exact ha
  nodes := by
    intro entry hentry
    rcases List.mem_append.mp hentry with hentry | hentry
    · exact h.nodes entry hentry
    · rw [List.mem_singleton.mp hentry]
      exact hnode

theorem not_mem_keys (hget : Keyed.get? key entries = none) : key ∉ entries.map (·.1) := by
  rw [← Keyed.isSome_get?_iff, hget]
  exact Bool.false_ne_true

theorem keys_replace (key : String) (node : Node) (entries : Entries) :
    (replace key node entries).map (·.1) = entries.map (·.1) := by
  rw [replace, List.map_map]
  refine List.map_congr_left fun entry _ => ?_
  rw [Function.comp_apply]
  split
  · exact (eq_of_beq ‹_›).symm
  · rfl

theorem Sound.replace (h : Sound entries) (key : String) (hnode : Distinct node) :
    Sound (replace key node entries) where
  keys := (keys_replace key node entries).symm ▸ h.keys
  nodes := by
    intro entry hentry
    obtain ⟨before, hbefore, rfl⟩ := List.mem_map.mp hentry
    split
    · exact hnode
    · exact h.nodes before hbefore

/-- A change that leaves each key of a table standing once does so wherever it is made. -/
theorem Sound.within {change : Bool → Entries → Option Entries}
    (hchange : ∀ isDotted {before after}, Sound before → change isDotted before = some after →
      Sound after) {dotted : Bool} {path : List String} {isDotted : Bool} (h : Sound entries)
    (hwithin : within dotted change path isDotted entries = some entries') : Sound entries' := by
  induction path generalizing isDotted entries entries' with
  | nil => exact hchange isDotted h hwithin
  | cons key path ih =>
    rw [Node.within] at hwithin
    split at hwithin
    case h_1 hget =>
      obtain ⟨inner, hinner, hresult⟩ := Option.bind_eq_some_iff.mp hwithin
      cases hresult
      exact h.append (not_mem_keys hget) (distinct_table_iff.mpr (ih .nil hinner))
    case h_2 implied below inner hget =>
      split at hwithin
      · cases hwithin
      · obtain ⟨after, hafter, hresult⟩ := Option.bind_eq_some_iff.mp hwithin
        cases hresult
        have hinner := distinct_table_iff.mp (h.distinct hget)
        exact h.replace key (distinct_table_iff.mpr (ih hinner hafter))
    case h_3 items hget =>
      obtain ⟨last, hlast, hrest⟩ := Option.bind_eq_some_iff.mp hwithin
      obtain ⟨after, hafter, hresult⟩ := Option.bind_eq_some_iff.mp hrest
      cases hresult
      have hitems := distinct_tables_iff.mp (h.distinct hget)
      have hinner := ih (hitems last (List.mem_of_getLast? hlast)) hafter
      refine h.replace key (distinct_tables_iff.mpr fun table htable => ?_)
      rcases List.mem_append.mp htable with htable | htable
      · exact hitems table ((List.dropLast_sublist items).subset htable)
      · exact List.mem_singleton.mp htable ▸ hinner
    case h_4 => cases hwithin

theorem Sound.assign {path : List String} {v : Toml} (h : Sound entries) (hv : v.Distinct)
    (hassign : assign path key v entries = some entries') : Sound entries' := by
  refine h.within (fun isDotted {before after} hbefore hafter => ?_) hassign
  split at hafter
  · cases hafter
  · rename_i hfree
    cases hafter
    refine hbefore.append (fun hmem => hfree ?_) (.value hv)
    rw [Keyed.isSome_get?_iff.mpr hmem, Bool.or_true]

theorem Sound.openTable {path : List String} (h : Sound entries)
    (hopen : openTable path key entries = some entries') : Sound entries' := by
  refine h.within (fun isDotted {before after} hbefore hafter => ?_) hopen
  split at hafter
  case h_1 hget =>
    cases hafter
    exact hbefore.append (not_mem_keys hget) (distinct_table_iff.mpr .nil)
  case h_2 inner hget =>
    cases hafter
    refine (hbefore.filter _).append (fun hmem => ?_)
      (distinct_table_iff.mpr (distinct_table_iff.mp (hbefore.distinct hget)))
    obtain ⟨entry, hentry, hkey⟩ := List.mem_map.mp hmem
    exact bne_iff_ne.mp (List.mem_filter.mp hentry).2 hkey
  case h_3 => cases hafter

theorem Sound.openRepeated {path : List String} (h : Sound entries)
    (hopen : openRepeated path key entries = some entries') : Sound entries' := by
  refine h.within (fun isDotted {before after} hbefore hafter => ?_) hopen
  split at hafter
  case h_1 hget =>
    cases hafter
    refine hbefore.append (not_mem_keys hget) (distinct_tables_iff.mpr fun table htable => ?_)
    exact List.mem_singleton.mp htable ▸ .nil
  case h_2 items hget =>
    cases hafter
    refine hbefore.replace key (distinct_tables_iff.mpr fun table htable => ?_)
    rcases List.mem_append.mp htable with htable | htable
    · exact distinct_tables_iff.mp (hbefore.distinct hget) table htable
    · exact List.mem_singleton.mp htable ▸ .nil
  case h_3 => cases hafter

end Steps

section Values

theorem entriesToToml_eq (entries : Entries) :
    entriesToToml entries = entries.map fun entry => (entry.1, entry.2.toToml) := by
  induction entries with
  | nil => rfl
  | cons entry entries ih => rw [entriesToToml, ih, List.map_cons]

theorem itemsToToml_eq (items : List Entries) :
    itemsToToml items = items.map fun entries => .table (entriesToToml entries) := by
  induction items with
  | nil => rfl
  | cons entries items ih => rw [itemsToToml, ih, List.map_cons]

theorem distinct_entriesToToml (hkeys : (entries.map (·.1)).Nodup)
    (h : ∀ entry ∈ entries, entry.2.toToml.Distinct) :
    Toml.Distinct (.table (entriesToToml entries)) := by
  rw [entriesToToml_eq]
  refine .table (by rwa [List.map_map]) fun entry hentry => ?_
  obtain ⟨node, hnode, rfl⟩ := List.mem_map.mp hentry
  exact h node hnode

theorem Distinct.toToml (h : Distinct node) : node.toToml.Distinct := by
  induction h with
  | value h => exact h
  | table hkeys _ ih => exact distinct_entriesToToml hkeys ih
  | tables hkeys _ ih =>
    rw [Node.toToml, itemsToToml_eq]
    refine .array fun item hitem => ?_
    obtain ⟨entries, hentries, rfl⟩ := List.mem_map.mp hitem
    exact distinct_entriesToToml (hkeys entries hentries) (ih entries hentries)

theorem Sound.toToml (h : Sound entries) : Toml.Distinct (.table (entriesToToml entries)) :=
  distinct_entriesToToml h.keys fun entry hentry => (h.nodes entry hentry).toToml

end Values

end Node

section Readers

variable {item : Reader Toml} {fuel : Nat} {s rest : List Char}

theorem distinct_of_items? (hitem : ∀ {s v rest}, item s = some (v, rest) → v.Distinct)
    {items : List Toml} (h : items? item fuel s = some (items, rest)) :
    ∀ v ∈ items, v.Distinct := by
  induction fuel generalizing s items with
  | zero => cases h
  | succ fuel ih =>
    rw [items?] at h
    split at h
    case h_1 =>
      cases h
      exact nofun
    case h_2 =>
      obtain ⟨⟨v, after⟩, hv, h⟩ := Option.bind_eq_some_iff.mp h
      dsimp only at h
      split at h
      case h_1 =>
        obtain ⟨⟨values, last⟩, hvalues, h⟩ := Option.bind_eq_some_iff.mp h
        cases h
        exact List.forall_mem_cons.mpr ⟨hitem hv, ih hvalues⟩
      case h_2 =>
        cases h
        exact List.forall_mem_cons.mpr ⟨hitem hv, nofun⟩
      case h_3 => cases h

theorem sound_of_entries? (hitem : ∀ {s v rest}, item s = some (v, rest) → v.Distinct)
    {entries entries' : Node.Entries} (hentries : Node.Sound entries)
    (h : entries? item fuel entries s = some (entries', rest)) : Node.Sound entries' := by
  induction fuel generalizing s entries with
  | zero => cases h
  | succ fuel ih =>
    rw [entries?] at h
    obtain ⟨⟨⟨path, key⟩, after⟩, -, h⟩ := Option.bind_eq_some_iff.mp h
    dsimp only at h
    split at h
    case h_2 => cases h
    case h_1 =>
      obtain ⟨⟨v, after⟩, hv, h⟩ := Option.bind_eq_some_iff.mp h
      obtain ⟨more, hassign, h⟩ := Option.bind_eq_some_iff.mp h
      have hmore := hentries.assign (hitem hv) hassign
      split at h
      case h_1 => exact ih hmore h
      case h_2 =>
        cases h
        exact hmore
      case h_3 => cases h

theorem distinct_of_integerOf? {i : Int} {v : Toml} (h : integerOf? i = some v) : v.Distinct := by
  obtain ⟨-, hv⟩ := Option.ite_none_right_eq_some.mp h
  cases hv
  exact .integer i

theorem distinct_of_floatOf? {negative : Bool} {digits : List Char} {power : Int} {v : Toml}
    (h : floatOf? negative digits power = some v) : v.Distinct := by
  rw [floatOf?] at h
  split at h
  · cases h
    exact .float _
  · obtain ⟨-, hv⟩ := Option.ite_none_right_eq_some.mp h
    cases hv
    exact .float _

theorem distinct_of_based? {word : List Char} {v : Toml} (h : based? word = some v) :
    v.Distinct := by
  unfold based? at h
  split at h
  case h_2 => cases h
  case h_1 mark s =>
    have hdigits : ∀ {base}, ((digits? base s).bind fun found =>
        if found.2.isEmpty then integerOf? (numberOf base found.1) else none) = some v →
          v.Distinct := by
      intro base h
      obtain ⟨found, -, h⟩ := Option.bind_eq_some_iff.mp h
      exact distinct_of_integerOf? (Option.ite_none_right_eq_some.mp h).2
    dsimp only at h
    split at h
    · exact hdigits h
    · exact hdigits h
    · exact hdigits h
    · cases h

theorem distinct_of_number? {word : List Char} {v : Toml} (h : number? word = some v) :
    v.Distinct := by
  unfold number? at h
  dsimp only at h
  split at h
  · cases h
    exact .float _
  split at h
  · cases h
    exact .float _
  obtain ⟨⟨whole, rest⟩, -, h⟩ := Option.bind_eq_some_iff.mp h
  dsimp only at h
  split at h
  · exact distinct_of_integerOf? h
  · obtain ⟨⟨fraction, rest⟩, -, h⟩ := Option.bind_eq_some_iff.mp h
    obtain ⟨power, -, h⟩ := Option.bind_eq_some_iff.mp h
    exact distinct_of_floatOf? h
  · obtain ⟨power, -, h⟩ := Option.bind_eq_some_iff.mp h
    exact distinct_of_floatOf? h

theorem distinct_of_scalar? {word : List Char} {v : Toml} (h : scalar? word = some v) :
    v.Distinct := by
  rw [scalar?] at h
  split at h
  · cases h
    exact .boolean true
  split at h
  · cases h
    exact .boolean false
  rw [Option.orElse_eq_or, Option.orElse_eq_or] at h
  rcases Option.or_eq_some_iff.mp h with h | ⟨-, h⟩
  · obtain ⟨d, -, rfl⟩ := Option.map_eq_some_iff.mp h
    exact .date d
  rcases Option.or_eq_some_iff.mp h with h | ⟨-, h⟩
  · exact distinct_of_based? h
  · exact distinct_of_number? h

/-- A value written in line has no key twice, however deep it is nested. -/
theorem distinct_of_value? {room : Nat} {v : Toml} (h : value? room s = some (v, rest)) :
    v.Distinct := by
  induction room using Nat.strongRecOn generalizing s v rest with
  | ind room ih =>
    have htext : ∀ {read : Option (String × List Char)},
        read.map (fun found => (Toml.text found.1, found.2)) = some (v, rest) → v.Distinct := by
      intro _ h
      obtain ⟨found, -, hv⟩ := Option.map_eq_some_iff.mp h
      cases hv
      exact .text _
    unfold value? at h
    split at h
    case h_1 => exact htext h
    case h_2 => exact htext h
    case h_3 room _ =>
      obtain ⟨⟨items, after⟩, hitems, h⟩ := Option.bind_eq_some_iff.mp h
      cases h
      exact .array (distinct_of_items? (ih room (Nat.lt_succ_self room)) hitems)
    case h_4 room _ =>
      split at h
      · cases h
        exact Node.Sound.nil.toToml
      · obtain ⟨⟨entries, after⟩, hentries, h⟩ := Option.bind_eq_some_iff.mp h
        cases h
        exact (sound_of_entries? (ih room (Nat.lt_succ_self room)) .nil hentries).toToml
    case h_5 =>
      obtain ⟨scalar, hscalar, h⟩ := Option.map_eq_some_iff.mp h
      cases h
      exact distinct_of_scalar? hscalar

/-- Whatever a line does, each key of the tables that are built stands once after it. -/
theorem sound_of_lines? {header : List String} {entries entries' : Node.Entries}
    (hentries : Node.Sound entries) (h : lines? fuel header entries s = some entries') :
    Node.Sound entries' := by
  induction fuel generalizing header s entries with
  | zero => cases h
  | succ fuel ih =>
    rw [lines?] at h
    split at h
    case h_1 =>
      cases h
      exact hentries
    case h_2 =>
      obtain ⟨⟨⟨path, key⟩, after⟩, -, h⟩ := Option.bind_eq_some_iff.mp h
      obtain ⟨more, hopen, h⟩ := Option.bind_eq_some_iff.mp h
      exact ih (hentries.openRepeated hopen) h
    case h_3 =>
      obtain ⟨⟨⟨path, key⟩, after⟩, -, h⟩ := Option.bind_eq_some_iff.mp h
      obtain ⟨more, hopen, h⟩ := Option.bind_eq_some_iff.mp h
      exact ih (hentries.openTable hopen) h
    case h_4 =>
      split at h
      · exact ih hentries h
      · obtain ⟨⟨⟨path, key⟩, after⟩, -, h⟩ := Option.bind_eq_some_iff.mp h
        dsimp only at h
        split at h
        · obtain ⟨⟨v, after⟩, hv, h⟩ := Option.bind_eq_some_iff.mp h
          obtain ⟨after, -, h⟩ := Option.bind_eq_some_iff.mp h
          obtain ⟨more, hwithin, h⟩ := Option.bind_eq_some_iff.mp h
          refine ih (hentries.within (fun _ _ _ hbefore hassign => ?_) hwithin) h
          exact hbefore.assign (distinct_of_value? hv) hassign
        · cases h

theorem distinct_of_parse? {document : String} {entries : List (String × Toml)}
    (h : parse? document = some entries) : Distinct (.table entries) := by
  obtain ⟨nodes, hnodes, h⟩ := Option.bind_eq_some_iff.mp h
  cases h
  exact (sound_of_lines? .nil hnodes).toToml

end Readers

end ComponentCompiler.Toml
