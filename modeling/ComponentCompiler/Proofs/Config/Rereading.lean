import ComponentCompiler.Config.Document
import ComponentCompiler.Proofs.Toml.Keys

/-!
# Reading back what was written

A value that was written and read again comes back with the entries of its tables in another
order, and with dates in either of their two forms. It stands for the value that was written
(`Stands`), and each part of it for the same part of that value. A reader gets back what a writer
wrote if it reads it from everything that stands for it (`Restores`).
-/

namespace ComponentCompiler.Toml

/-- Reads a document as a value, up to the order of the entries of its tables. -/
def read? (document : String) : Option Toml := do
  let entries ← parse? document
  let value ← dated? (.table entries)
  return value.canonical

section Dated

variable {items : List Toml} {entries more : List (String × Toml)} {v : Toml}

theorem exists_of_dated?_array (h : dated? (.array items) = some v) :
    ∃ read, v = .array read ∧ datedItems? items = some read := by
  rw [dated?] at h
  obtain ⟨read, hread, h⟩ := Option.bind_eq_some_iff.mp h
  cases h
  exact ⟨read, rfl, hread⟩

/-- A table is read as a date or entry by entry. -/
theorem exists_of_dated?_table (h : dated? (.table entries) = some v) :
    (∃ d, v = .date d) ∨ ∃ read, v = .table read ∧ datedEntries? entries = some read := by
  cases entries with
  | nil =>
    cases h
    exact .inr ⟨[], rfl, rfl⟩
  | cons entry rest =>
    obtain ⟨key, value⟩ := entry
    unfold dated? at h
    dsimp only at h
    split at h
    · split at h
      · obtain ⟨d, -, rfl⟩ := Option.map_eq_some_iff.mp h
        exact .inl ⟨d, rfl⟩
      · cases h
    · obtain ⟨first, hfirst, h⟩ := Option.bind_eq_some_iff.mp h
      obtain ⟨others, hothers, h⟩ := Option.bind_eq_some_iff.mp h
      cases h
      refine .inr ⟨_, rfl, ?_⟩
      rw [datedEntries?, hfirst, Option.bind_eq_bind, Option.bind_some, hothers]
      rfl

theorem keys_of_datedEntries? (h : datedEntries? entries = some more) :
    more.map (·.1) = entries.map (·.1) := by
  induction entries generalizing more with
  | nil =>
    cases h
    rfl
  | cons entry rest ih =>
    obtain ⟨key, value⟩ := entry
    rw [datedEntries?] at h
    obtain ⟨first, -, h⟩ := Option.bind_eq_some_iff.mp h
    obtain ⟨others, hothers, h⟩ := Option.bind_eq_some_iff.mp h
    cases h
    exact congrArg (key :: ·) (ih hothers)

theorem get?_datedEntries? (h : datedEntries? entries = some more) (key : String) :
    Option.Rel (fun value read => dated? value = some read) (Keyed.get? key entries)
      (Keyed.get? key more) := by
  induction entries generalizing more with
  | nil =>
    cases h
    exact .none
  | cons entry rest ih =>
    obtain ⟨k, value⟩ := entry
    rw [datedEntries?] at h
    obtain ⟨first, hfirst, h⟩ := Option.bind_eq_some_iff.mp h
    obtain ⟨others, hothers, h⟩ := Option.bind_eq_some_iff.mp h
    cases h
    rw [Keyed.get?_cons, Keyed.get?_cons]
    split
    · exact .some hfirst
    · exact ih hothers

end Dated

/-- A text, a number or a switch. -/
def isSimple : Toml → Bool
  | text _ => true
  | integer _ => true
  | float _ => true
  | boolean _ => true
  | _ => false

/-- A value that was read stands for a value that was written: they are the same up to the order
of entries. -/
structure Stands (read written : Toml) : Prop where
  distinct : read.Distinct
  same : ∃ v, dated? read = some v ∧ v.canonical = written.canonical

/-- Whatever stands for a written value is read as what it was written for. -/
def Restores (decode : Decoder α) (written : Toml) (a : α) : Prop :=
  ∀ read, Stands read written → decode read = some a

section Stands

variable {read : Toml}

theorem exists_stands_of_read? {document : String} {written : Toml}
    (h : read? document = some written.canonical) :
    ∃ entries, parse? document = some entries ∧ Stands (.table entries) written := by
  obtain ⟨entries, hentries, h⟩ := Option.bind_eq_some_iff.mp h
  obtain ⟨v, hv, h⟩ := Option.bind_eq_some_iff.mp h
  exact ⟨entries, hentries, distinct_of_parse? hentries, v, hv, Option.some.inj h⟩

/-- What stands for a text, a number or a switch is that value. -/
theorem Stands.eq_of_isSimple {written : Toml} (hsimple : written.isSimple)
    (h : Stands read written) : read = written := by
  obtain ⟨v, hv, hsame⟩ := h.same
  cases read with
  | array items =>
    obtain ⟨more, rfl, -⟩ := exists_of_dated?_array hv
    cases written <;> cases hsimple <;> cases hsame
  | table entries =>
    obtain ⟨d, rfl⟩ | ⟨more, rfl, -⟩ := exists_of_dated?_table hv
    · cases written <;> cases hsimple <;> cases hsame
    · cases written <;> cases hsimple <;> cases hsame
  | _ =>
    cases hv
    cases written <;> cases hsimple <;> cases hsame <;> rfl

/-- What stands for a list is a list, read item by item. -/
theorem Stands.array {written : List Toml} (h : Stands read (.array written)) :
    ∃ items more, read = .array items ∧ datedItems? items = some more ∧
      canonicalItems more = canonicalItems written := by
  obtain ⟨v, hv, hsame⟩ := h.same
  cases read with
  | array items =>
    obtain ⟨more, rfl, hmore⟩ := exists_of_dated?_array hv
    exact ⟨items, more, rfl, hmore, Toml.array.inj hsame⟩
  | table entries =>
    obtain ⟨d, rfl⟩ | ⟨more, rfl, -⟩ := exists_of_dated?_table hv
    · cases hsame
    · cases hsame
  | _ =>
    cases hv
    cases hsame

/-- What stands for a table is a table, read entry by entry. -/
theorem Stands.table {written : List (String × Toml)} (h : Stands read (.table written)) :
    ∃ entries more, read = .table entries ∧ datedEntries? entries = some more ∧
      Keyed.sorted (canonicalEntries more) = Keyed.sorted (canonicalEntries written) := by
  obtain ⟨v, hv, hsame⟩ := h.same
  cases read with
  | array items =>
    obtain ⟨more, rfl, -⟩ := exists_of_dated?_array hv
    cases hsame
  | table entries =>
    obtain ⟨d, rfl⟩ | ⟨more, rfl, hmore⟩ := exists_of_dated?_table hv
    · cases hsame
    · exact ⟨entries, more, rfl, hmore, Toml.table.inj hsame⟩
  | _ =>
    cases hv
    cases hsame

/-- Items that were written one by one are read back one by one. -/
theorem mapM_of_canonicalItems {decode : Decoder α} {encode : α → Toml}
    (hitem : ∀ x, Restores decode (encode x) x) {items more : List Toml} {xs : List α}
    (hdistinct : ∀ item ∈ items, item.Distinct) (hmore : datedItems? items = some more)
    (hsame : canonicalItems more = canonicalItems (xs.map encode)) :
    items.mapM decode = some xs := by
  induction items generalizing more xs with
  | nil =>
    cases hmore
    cases xs with
    | nil => rfl
    | cons x xs => cases hsame
  | cons item rest ih =>
    rw [datedItems?] at hmore
    obtain ⟨first, hfirst, hmore⟩ := Option.bind_eq_some_iff.mp hmore
    obtain ⟨others, hothers, hmore⟩ := Option.bind_eq_some_iff.mp hmore
    cases hmore
    obtain ⟨hfirstDistinct, hrestDistinct⟩ := List.forall_mem_cons.mp hdistinct
    cases xs with
    | nil => cases hsame
    | cons x xs =>
      obtain ⟨hhead, htail⟩ := List.cons_eq_cons.mp hsame
      have hread : decode item = some x := hitem x item ⟨hfirstDistinct, first, hfirst, hhead⟩
      rw [List.mapM_cons, hread, ih hrestDistinct hothers htail]
      rfl

theorem Stands.items {decode : Decoder α} {encode : α → Toml} {xs : List α}
    (hitem : ∀ x, Restores decode (encode x) x) (h : Stands read (.array (xs.map encode))) :
    ∃ items, read = .array items ∧ items.mapM decode = some xs := by
  obtain ⟨items, more, rfl, hmore, hsame⟩ := h.array
  exact ⟨items, rfl, mapM_of_canonicalItems hitem h.distinct.of_item hmore hsame⟩

/-- What stands for a table has the same keys, and what is at them stands for what was written
there. -/
theorem Stands.entries {written : List (String × Toml)} (h : Stands read (.table written))
    (hkeys : (written.map (·.1)).Nodup) :
    ∃ entries, read = .table entries ∧
      ∀ key, Option.Rel Stands (Keyed.get? key entries) (Keyed.get? key written) := by
  obtain ⟨entries, more, rfl, hmore, hsame⟩ := h.table
  have hmoreKeys : (more.map (·.1)).Nodup := (keys_of_datedEntries? hmore).symm ▸ h.distinct.keys
  refine ⟨entries, rfl, fun key => ?_⟩
  have hcanonical :
      (Keyed.get? key more).map canonical = (Keyed.get? key written).map canonical := by
    have hget : ∀ {list : List (String × Toml)}, (list.map (·.1)).Nodup →
        Keyed.get? key (Keyed.sorted (canonicalEntries list)) =
          (Keyed.get? key list).map canonical := by
      intro list hlist
      have hlist' : ((canonicalEntries list).map (·.1)).Nodup :=
        (keys_canonicalEntries list).symm ▸ hlist
      rw [Keyed.get?_of_perm hlist' (Keyed.sorted_perm hlist'), canonicalEntries_eq,
        Keyed.get?_map]
    rw [← hget hmoreKeys, ← hget hkeys, hsame]
  have hread := get?_datedEntries? hmore key
  cases hentry : Keyed.get? key entries with
  | none =>
    rw [hentry] at hread
    generalize Keyed.get? key more = found at hread hcanonical
    cases hread
    rw [Option.map_none, eq_comm, Option.map_eq_none_iff] at hcanonical
    rw [hcanonical]
    exact .none
  | some value =>
    rw [hentry] at hread
    generalize Keyed.get? key more = found at hread hcanonical
    cases hread
    rename_i v hv
    rw [Option.map_some, eq_comm, Option.map_eq_some_iff] at hcanonical
    obtain ⟨u, hu, hsame⟩ := hcanonical
    rw [hu]
    exact .some ⟨h.distinct.of_entry _ (Keyed.mem_of_get? hentry), v, hv, hsame.symm⟩

/-- The fields of what stands for a table, whose keys are some of the given ones in their order. -/
theorem Stands.fields {written : List (String × Toml)} {keys : List String}
    (h : Stands read (.table written)) (strict : Bool) (hnodup : keys.Nodup)
    (hkeys : (written.map (·.1)).Sublist keys) :
    ∃ fields, read.asFields? keys strict = some fields ∧
      ∀ key, Option.Rel Stands (fields key) (Keyed.get? key written) := by
  obtain ⟨entries, rfl, hentries⟩ := h.entries (hnodup.sublist hkeys)
  refine ⟨fun key => Keyed.get? key entries, ?_, hentries⟩
  have hall : entries.all (fun entry => keys.contains entry.1) := by
    rw [List.all_eq_true]
    intro entry hentry
    have hread := hentries entry.1
    rw [(Keyed.get?_eq_some_iff_mem h.distinct.keys).mpr hentry] at hread
    generalize hget : Keyed.get? entry.1 written = found at hread
    cases hread
    have hmem := Keyed.mem_of_get? hget
    exact List.contains_iff_mem.mpr (hkeys.subset (List.mem_map.mpr ⟨_, hmem, rfl⟩))
  rw [asFields?, hall, Bool.not_true, Bool.and_false]
  rfl

end Stands

section Fields

variable {fields : String → Option Toml} {key : String} {written : Toml}
  {decode : Decoder α} {a : α}

theorem exists_of_some (hfield : Option.Rel Stands (fields key) (some written)) :
    ∃ read, fields key = some read ∧ Stands read written := by
  generalize fields key = found at hfield
  cases hfield
  exact ⟨_, rfl, ‹_›⟩

theorem field?_of_some (hfield : Option.Rel Stands (fields key) (some written))
    (hdecode : Restores decode written a) (default : α) :
    field? fields key default decode = some a := by
  obtain ⟨read, hget, hread⟩ := exists_of_some hfield
  rw [field?, hget]
  exact hdecode read hread

theorem Restores.map {decode : Decoder α} {written : Toml} {a : α} (h : Restores decode written a)
    (f : α → β) : Restores (fun v => (decode v).map f) written (f a) := by
  intro read hread
  exact (congrArg (Option.map f) (h read hread)).trans (Option.map_some ..)

/-- A field that is left out where there is nothing to write. -/
theorem field?_of_map {found : Option β} {encode : β → Toml} {decode : Decoder (Option β)}
    (hfield : Option.Rel Stands (fields key) (found.map encode))
    (hdecode : ∀ b, found = some b → Restores decode (encode b) (some b)) :
    field? fields key none decode = some found := by
  cases found with
  | none =>
    rw [Option.map_none] at hfield
    generalize hget : fields key = read at hfield
    cases hfield
    rw [field?, hget]
  | some b => exact field?_of_some hfield (hdecode b rfl) none

end Fields

section Readers

theorem restores_text (s : String) : Restores asText? (.text s) s := by
  intro read hread
  rw [hread.eq_of_isSimple rfl]
  rfl

theorem restores_boolean (b : Bool) : Restores asBoolean? (.boolean b) b := by
  intro read hread
  rw [hread.eq_of_isSimple rfl]
  rfl

theorem restores_name {ofName? : String → Option α} {name : String} {a : α}
    (h : ofName? name = some a) : Restores (fun v => v.asName?.bind ofName?) (.text name) a := by
  intro read hread
  rw [hread.eq_of_isSimple rfl]
  exact h

/-- A command is written as a list, whichever of its two forms it was read from. -/
theorem restores_command (command : List String) :
    Restores asCommand? (.array (command.map .text)) command := by
  intro read hread
  obtain ⟨items, rfl, hitems⟩ := hread.items restores_text
  exact hitems

end Readers

end ComponentCompiler.Toml
