import ComponentCompiler.Cache.Index
import ComponentCompiler.Proofs.Json.Exchange
import ComponentCompiler.Proofs.Json.Reread
import ComponentCompiler.Proofs.Keyed

/-!
# Indices are read back

Fingerprints and indices are exchanged: whatever is decoded from a legible value is written as one
from which it is decoded again. An index whose entries are sorted and whose times are numbers in
their normal form is read from its document as it was written (`CacheIndex.read?_document`), and
every index that is read is of this kind (`CacheIndex.wellFormed_of_read?`). From the document of
any other index, if one can be read from it at all, what is read is for the same version of the
compiler and has no other keys (`CacheIndex.of_read?_document`).
-/

namespace ComponentCompiler

open Json

variable {bound : Nat}

namespace ExternalStamp

theorem ofJson?_toJson (stamp : ExternalStamp) : ofJson? stamp.toJson = some stamp := by
  rw [ofJson?, toJson, record?_of_nodup (by simp)]
  rfl

theorem comesBack {stamp : ExternalStamp} (h : stamp.modified.Normal) :
    ComesBack shape (bound + 1) ofJson? toJson stamp := by
  refine ⟨(legible_object_iff rfl).mpr ?_, stamp.ofJson?_toJson⟩
  simp only [List.forall_mem_cons]
  exact ⟨(comesBack_text stamp.path).legible, (comesBack_number h).legible, nofun⟩

theorem normal_of_ofJson? {value : Json} (hlegible : Legible shape (bound + 1) value)
    {stamp : ExternalStamp} (h : ofJson? value = some stamp) : stamp.modified.Normal := by
  obtain ⟨members, hmembers, h⟩ := Option.bind_eq_some_iff.mp h
  obtain ⟨path, -, h⟩ := Option.bind_eq_some_iff.mp h
  obtain ⟨modified, hmodified, h⟩ := Option.bind_eq_some_iff.mp h
  cases h
  have hkept := hlegible.kept (by decide) hmembers
  exact (hkept.required hmodified exchanged_number rfl).legible.normal

theorem exchanged : Exchanged shape (bound + 1) ofJson? toJson := by
  intro value stamp hlegible hstamp
  exact comesBack (normal_of_ofJson? hlegible hstamp)

end ExternalStamp

namespace Fingerprint

/-- The times of a fingerprint are numbers in their normal form. -/
structure Normal (f : Fingerprint) : Prop where
  modified : ∀ x ∈ f.modified, x.Normal
  externalScript : ∀ stamp ∈ f.externalScript, stamp.modified.Normal
  externalTemplate : ∀ stamp ∈ f.externalTemplate, stamp.modified.Normal

variable (f : Fingerprint)

/-- The members that are written of a fingerprint. -/
def members : Members :=
  [("mtimeMs", ofOption (f.modified.map .float)),
    ("externalScript", ofOption (f.externalScript.map ExternalStamp.toJson)),
    ("externalTemplate", ofOption (f.externalTemplate.map ExternalStamp.toJson))]

theorem nodup_members : (f.members.map (·.1)).Nodup := by simp [members]

theorem ofJson?_toJson : ofJson? f.toJson = some f := by
  change ofJson? (.object f.members) = some f
  rw [ofJson?, record?_of_nodup f.nodup_members]
  simp only [Option.bind_eq_bind, Option.bind_some]
  rw [optional?_of_nullable (x := f.modified) (f := Json.float) rfl
      fun x _ => ⟨Json.noConfusion, rfl⟩,
    optional?_of_nullable (x := f.externalScript) (f := ExternalStamp.toJson) rfl
      fun stamp _ => ⟨Json.noConfusion, stamp.ofJson?_toJson⟩,
    optional?_of_nullable (x := f.externalTemplate) (f := ExternalStamp.toJson) rfl
      fun stamp _ => ⟨Json.noConfusion, stamp.ofJson?_toJson⟩]
  rfl

variable {f}

theorem Normal.comesBack (h : f.Normal) : ComesBack shape (bound + 2) ofJson? toJson f := by
  refine ⟨(legible_object_iff rfl).mpr ?_, f.ofJson?_toJson⟩
  have hmodified : OptionComesBack .whole (bound + 1) asNumber? .float f.modified :=
    ⟨fun _ _ => Json.noConfusion, fun x hx => comesBack_number (h.modified x hx)⟩
  have hscript : OptionComesBack ExternalStamp.shape (bound + 1) ExternalStamp.ofJson?
      ExternalStamp.toJson f.externalScript :=
    ⟨fun _ _ => Json.noConfusion, fun stamp hstamp =>
      ExternalStamp.comesBack (h.externalScript stamp hstamp)⟩
  have htemplate : OptionComesBack ExternalStamp.shape (bound + 1) ExternalStamp.ofJson?
      ExternalStamp.toJson f.externalTemplate :=
    ⟨fun _ _ => Json.noConfusion, fun stamp hstamp =>
      ExternalStamp.comesBack (h.externalTemplate stamp hstamp)⟩
  simp only [List.forall_mem_cons]
  exact ⟨hmodified.legible_ofOption, hscript.legible_ofOption, htemplate.legible_ofOption, nofun⟩

theorem normal_of_ofJson? {value : Json} (hlegible : Legible shape (bound + 2) value)
    (h : ofJson? value = some f) : f.Normal := by
  obtain ⟨members, hmembers, h⟩ := Option.bind_eq_some_iff.mp h
  obtain ⟨modified, hmodified, h⟩ := Option.bind_eq_some_iff.mp h
  obtain ⟨externalScript, hscript, h⟩ := Option.bind_eq_some_iff.mp h
  obtain ⟨externalTemplate, htemplate, h⟩ := Option.bind_eq_some_iff.mp h
  cases h
  have hkept := hlegible.kept (by decide) hmembers
  have hmodified := hkept.optional hmodified exchanged_number rfl fun _ _ _ _ => Json.noConfusion
  have hscript := hkept.optional hscript ExternalStamp.exchanged rfl
    fun _ _ _ _ => Json.noConfusion
  have htemplate := hkept.optional htemplate ExternalStamp.exchanged rfl
    fun _ _ _ _ => Json.noConfusion
  have hnormal : ∀ stamp, ComesBack ExternalStamp.shape (bound + 1) ExternalStamp.ofJson?
      ExternalStamp.toJson stamp → stamp.modified.Normal := fun stamp hback =>
    ExternalStamp.normal_of_ofJson? hback.legible hback.decoded
  constructor
  · exact fun x hx => (hmodified.comesBack x hx).legible.normal
  · exact fun stamp hstamp => hnormal stamp (hscript.comesBack stamp hstamp)
  · exact fun stamp hstamp => hnormal stamp (htemplate.comesBack stamp hstamp)

theorem exchanged : Exchanged shape (bound + 2) ofJson? toJson := by
  intro value f hlegible hf
  exact (normal_of_ofJson? hlegible hf).comesBack

end Fingerprint

namespace CacheIndex

/-- An index that can be written and read: its entries are sorted and its times are numbers in their
normal form. -/
structure WellFormed (index : CacheIndex) : Prop where
  version : index.version = formatVersion
  ascending : Keyed.Ascending index.entries
  normal : ∀ entry ∈ index.entries, entry.2.Normal

theorem wellFormed_empty (compilerVersion : String) : (empty compilerVersion).WellFormed :=
  ⟨rfl, List.Pairwise.nil, nofun⟩

theorem WellFormed.insert {index : CacheIndex} (h : index.WellFormed) (key : String)
    {fingerprint : Fingerprint} (hnormal : fingerprint.Normal) :
    { index with entries := Keyed.insert key fingerprint index.entries }.WellFormed where
  version := h.version
  ascending := h.ascending.insert key fingerprint
  normal entry hentry := by
    rcases Keyed.mem_insert hentry with rfl | hentry
    · exact hnormal
    · exact h.normal entry hentry

section Entries

variable {entries : List (String × Fingerprint)}

theorem entriesOf?_toJson (h : Keyed.Ascending entries) :
    entriesOf? (.object (entries.map fun entry => (entry.1, entry.2.toJson))) = some entries := by
  have hmapM : (entries.map fun entry => (entry.1, entry.2.toJson)).mapM (fun member =>
      (Fingerprint.ofJson? member.2).map (member.1, ·)) = some entries := by
    clear h
    induction entries with
    | nil => rfl
    | cons entry entries ih =>
        rw [List.map_cons, List.mapM_cons, ih, Fingerprint.ofJson?_toJson]
        rfl
  rw [entriesOf?, asObject?]
  simp only [Option.bind_eq_bind, Option.bind_some, hmapM, Option.pure_def, h.sorted_eq]

/-- Entries come back if they are sorted and their times are numbers in their normal form. -/
theorem comesBack_entries (hascending : Keyed.Ascending entries)
    (hnormal : ∀ entry ∈ entries, entry.2.Normal) :
    ComesBack (.entries Fingerprint.shape) (bound + 3) entriesOf?
      (fun entries => .object (entries.map fun entry => (entry.1, entry.2.toJson))) entries := by
  refine ⟨(legible_object_iff rfl).mpr fun member hmember => ?_, entriesOf?_toJson hascending⟩
  obtain ⟨entry, hentry, rfl⟩ := List.mem_map.mp hmember
  exact (hnormal entry hentry).comesBack.legible

/-- Entries that are decoded are sorted, and their times are numbers in their normal form. -/
theorem normal_of_entriesOf? {value : Json}
    (hlegible : Legible (.entries Fingerprint.shape) (bound + 3) value)
    (h : entriesOf? value = some entries) :
    Keyed.Ascending entries ∧ ∀ entry ∈ entries, entry.2.Normal := by
  obtain ⟨members, hmembers, h⟩ := Option.bind_eq_some_iff.mp h
  obtain ⟨unsorted, hunsorted, h⟩ := Option.bind_eq_some_iff.mp h
  cases h
  refine ⟨Keyed.ascending_sorted unsorted, fun entry hentry => ?_⟩
  obtain ⟨member, hmember, hdecode⟩ := exists_of_mem_mapM hunsorted (Keyed.mem_of_mem_sorted hentry)
  obtain ⟨fingerprint, hfingerprint, rfl⟩ := Option.map_eq_some_iff.mp hdecode
  unfold asObject? at hmembers
  split at hmembers
  · cases hmembers
    exact Fingerprint.normal_of_ofJson? ((legible_object_iff rfl).mp hlegible member hmember)
      hfingerprint
  · cases hmembers

theorem exchanged_entries : Exchanged (.entries Fingerprint.shape) (bound + 3) entriesOf?
    (fun entries => .object (entries.map fun entry => (entry.1, entry.2.toJson))) := by
  intro value entries hlegible hentries
  obtain ⟨hascending, hnormal⟩ := normal_of_entriesOf? hlegible hentries
  exact comesBack_entries hascending hnormal

end Entries

/-- An index that comes back: its version can be written, and its entries come back. -/
structure Settled (bound : Nat) (index : CacheIndex) : Prop where
  version : ComesBack .whole (bound + 3) (asNatural? (2 ^ 32)) (fun n => .integer n) index.version
  entries : ComesBack (.entries Fingerprint.shape) (bound + 3) entriesOf?
    (fun entries => .object (entries.map fun entry => (entry.1, entry.2.toJson))) index.entries

theorem WellFormed.settled {index : CacheIndex} (h : index.WellFormed) : index.Settled bound where
  version := comesBack_natural (by decide) (by rw [h.version]; decide)
  entries := comesBack_entries h.ascending h.normal

theorem settled_of_ofJson? {value : Json} {index : CacheIndex}
    (hlegible : Legible shape (bound + 4) value) (h : ofJson? value = some index) :
    index.Settled bound := by
  obtain ⟨members, hmembers, h⟩ := Option.bind_eq_some_iff.mp h
  obtain ⟨version, hversion, h⟩ := Option.bind_eq_some_iff.mp h
  obtain ⟨compilerVersion, -, h⟩ := Option.bind_eq_some_iff.mp h
  obtain ⟨entries, hentries, h⟩ := Option.bind_eq_some_iff.mp h
  cases h
  have hkept := hlegible.kept (by decide) hmembers
  constructor
  · exact hkept.required hversion (exchanged_natural (by decide)) rfl
  · exact hkept.required hentries exchanged_entries rfl

/-- An index that is read is sorted and its times are numbers in their normal form. -/
theorem wellFormed_of_read? {document : String} {index : CacheIndex}
    (h : read? document = some index) (hversion : index.version = formatVersion) :
    index.WellFormed := by
  obtain ⟨value, hvalue, h⟩ := Option.bind_eq_some_iff.mp h
  have hsettled : index.Settled 123 := settled_of_ofJson? (legible_of_parse? hvalue) h
  obtain ⟨hascending, hnormal⟩ :=
    normal_of_entriesOf? hsettled.entries.legible hsettled.entries.decoded
  exact ⟨hversion, hascending, hnormal⟩

variable (index : CacheIndex)

/-- The members that are written of an index. -/
def members : Members :=
  [("version", .integer index.version), ("compilerVersion", .text index.compilerVersion),
    ("entries", .object (index.entries.map fun entry => (entry.1, entry.2.toJson)))]

theorem nodup_members : (index.members.map (·.1)).Nodup := by simp [members]

variable {index}

theorem Settled.legible (h : index.Settled bound) : Legible shape (bound + 4) index.toJson := by
  refine (legible_object_iff rfl).mpr ?_
  simp only [List.forall_mem_cons]
  exact ⟨h.version.legible, (comesBack_text index.compilerVersion).legible, h.entries.legible,
    nofun⟩

theorem ofJson?_of_record? {value : Json} {members : Members}
    (h : value.record? shape 3 = some members)
    (hversion : members.required? "version" (asNatural? (2 ^ 32)) = some index.version)
    (hcompiler : members.required? "compilerVersion" asText? = some index.compilerVersion)
    (hentries : members.required? "entries" entriesOf? = some index.entries) :
    ofJson? value = some index := by
  rw [ofJson?, h, Option.bind_eq_bind, Option.bind_some, hversion, hcompiler, hentries]
  rfl

theorem Settled.ofJson?_toJson (h : index.Settled bound) : ofJson? index.toJson = some index := by
  apply ofJson?_of_record? (record?_of_nodup index.nodup_members _ _)
  · rw [required?_of_get? (x := .integer index.version) rfl, h.version.decoded]
  · exact required?_of_get? (x := .text index.compilerVersion) rfl
  · exact h.entries.decoded

theorem exchanged : Exchanged shape (bound + 4) ofJson? toJson := by
  intro value index hlegible hindex
  have hsettled := settled_of_ofJson? hlegible hindex
  exact ⟨hsettled.legible, hsettled.ofJson?_toJson⟩

/-- An index is read from its document as it was written. -/
theorem read?_document (h : index.WellFormed) :
    (read? index.document : Option CacheIndex) = some index := by
  have hsettled : index.Settled 123 := h.settled
  change (parse? shape index.toJson.pretty).bind ofJson? = some index
  rw [parse?_pretty_of_legible hsettled.legible, Option.bind_some, hsettled.ofJson?_toJson]

section AnyDocument

variable {index found : CacheIndex} {key : String}

theorem keys_of_mapM {members : List (String × Json)} {entries : List (String × Fingerprint)}
    (h : members.mapM (fun member => (Fingerprint.ofJson? member.2).map (member.1, ·)) =
      some entries) : entries.map (·.1) = members.map (·.1) := by
  induction members generalizing entries with
  | nil =>
    cases h
    rfl
  | cons member members ih =>
    rw [List.mapM_cons] at h
    obtain ⟨first, hfirst, h⟩ := Option.bind_eq_some_iff.mp h
    obtain ⟨rest, hrest, h⟩ := Option.bind_eq_some_iff.mp h
    obtain ⟨fingerprint, -, rfl⟩ := Option.map_eq_some_iff.mp hfirst
    cases h
    simp [ih hrest]

/-- The entries that are read have the keys of the members they are read from. -/
theorem mem_keys_of_entriesOf? {members : List (String × Json)}
    {entries : List (String × Fingerprint)} (h : entriesOf? (.object members) = some entries)
    (hkey : (Keyed.get? key entries).isSome) : key ∈ members.map (·.1) := by
  rw [entriesOf?] at h
  obtain ⟨object, hobject, h⟩ := Option.bind_eq_some_iff.mp h
  cases hobject
  obtain ⟨read, hread, h⟩ := Option.bind_eq_some_iff.mp h
  cases h
  rw [← keys_of_mapM hread]
  exact Keyed.mem_keys_of_sorted hkey

/-- What is read where an index was written. -/
theorem reread?_toJson {value : Json} (h : reread? shape index.toJson = some value) :
    ∃ version members, value = .object [("version", version),
        ("compilerVersion", .text index.compilerVersion), ("entries", .object members)] ∧
      members.map (·.1) = index.entries.map (·.1) := by
  obtain ⟨fields, hfields, rfl⟩ := Option.map_eq_some_iff.mp h
  rw [rereadMembers?_cons] at hfields
  obtain ⟨version, -, hfields⟩ := Option.bind_eq_some_iff.mp hfields
  obtain ⟨rest, hrest, hfields⟩ := Option.bind_eq_some_iff.mp hfields
  rw [rereadMembers?_cons] at hrest
  obtain ⟨compilerVersion, hversion, hrest⟩ := Option.bind_eq_some_iff.mp hrest
  obtain ⟨last, hlast, hrest⟩ := Option.bind_eq_some_iff.mp hrest
  rw [rereadMembers?_cons] at hlast
  obtain ⟨entries, hentries, hlast⟩ := Option.bind_eq_some_iff.mp hlast
  obtain ⟨members, hmembers, rfl⟩ := Option.map_eq_some_iff.mp hentries
  cases hversion
  cases hlast
  cases hrest
  cases hfields
  refine ⟨version, members, rfl, ?_⟩
  have hkeys := keys_rereadMembers? rfl hmembers
  rw [hkeys, List.map_map]
  rfl

/-- An index that is read from the document of an index is for the same compiler and has no other
keys. -/
theorem of_read?_document (h : read? index.document = some found) :
    found.compilerVersion = index.compilerVersion ∧
      ∀ key, (Keyed.get? key found.entries).isSome → (Keyed.get? key index.entries).isSome := by
  obtain ⟨value, hvalue, h⟩ := Option.bind_eq_some_iff.mp h
  have hparse : parse? shape index.toJson.pretty = some value := hvalue
  rw [parse?_pretty] at hparse
  obtain ⟨version, members, rfl, hkeys⟩ := reread?_toJson (Option.filter_eq_some_iff.mp hparse).1
  change ofJson? _ = some found at h
  rw [ofJson?] at h
  obtain ⟨fields, hfields, h⟩ := Option.bind_eq_some_iff.mp h
  cases hfields
  obtain ⟨number, -, h⟩ := Option.bind_eq_some_iff.mp h
  obtain ⟨compilerVersion, hversion, h⟩ := Option.bind_eq_some_iff.mp h
  obtain ⟨entries, hentries, h⟩ := Option.bind_eq_some_iff.mp h
  cases hversion
  cases h
  refine ⟨rfl, fun key hkey => ?_⟩
  rw [Keyed.isSome_get?_iff, ← hkeys]
  exact mem_keys_of_entriesOf? hentries hkey

end AnyDocument

end CacheIndex
end ComponentCompiler
