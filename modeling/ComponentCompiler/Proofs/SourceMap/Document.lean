import ComponentCompiler.Proofs.Json.Canonical
import ComponentCompiler.Proofs.Json.Reread
import ComponentCompiler.Proofs.Json.Members
import ComponentCompiler.Proofs.SourceMap.DebugId
import ComponentCompiler.Proofs.SourceMap.Mappings

/-!
# The document of a source map

The document of a map has each member once, and its members are read one by one: their order does
not count. What is read are the parts of the map that was written (`parts?_of_perm`), with the
mappings as far as they can be traced (`exists_ofJson`), and a text is read as its document is
(`ofBytes_text`).
-/

namespace ComponentCompiler.SourceMap

open Json

variable (map : SourceMap)

/-- The texts of the sources, if they are written. -/
def embedded : Option (List (Option String)) :=
  if map.writtenContents.any Option.isSome then some map.writtenContents else none

/-- The members of the document of a map. -/
def members : Members :=
  [("version", .integer 3)] ++ member? "file" (map.file.map .text) ++
    [("sources", .array (map.rawSources.map .text))] ++
    member? "sourceRoot" (map.root.map .text) ++
    member? "sourcesContent" (map.embedded.map fun texts => .array (texts.map ofText?)) ++
    [("names", .array (map.names.map .text)),
      ("mappings", .text (String.ofList (mappingChars map {} none map.mappings)))] ++
    member? "debug_id" (map.debugId.map fun id => .text id.text)

theorem toJson_eq : map.toJson = .object map.members := by
  rw [toJson, members, embedded]
  split <;> rfl

/-- The keys that the document of a map may have. -/
def documentKeys : List String :=
  ["version", "file", "sources", "sourceRoot", "sourcesContent", "names", "mappings", "debug_id"]

theorem keys_members : (map.members.map (·.1)).Sublist documentKeys := by
  rw [members]
  simp only [List.map_append]
  exact (((((((List.Sublist.refl ["version"]).append (keys_member? _ _)).append
    (.refl ["sources"])).append (keys_member? _ _)).append (keys_member? _ _)).append
    (.refl ["names", "mappings"])).append (keys_member? _ _))

theorem nodup_members : (map.members.map (·.1)).Nodup := map.keys_members.nodup (by decide)

/-- The parts of a map that are written. -/
def parts : Parts where
  file := map.file.map .text
  sources := map.rawSources
  root := map.root
  contents := map.embedded.getD []
  names := map.names.map .text
  ranges := ""
  mappings := String.ofList (mappingChars map {} none map.mappings)
  sections := none
  hasFunctions := false
  debugId := map.debugId

variable {map} {found : Members}

theorem get?_found (hperm : found.Perm map.members) (key : String) :
    Keyed.get? key found = Keyed.get? key map.members :=
  Keyed.get?_of_perm map.nodup_members hperm key

theorem asTexts?_ofText? (texts : List (Option String)) :
    asList? (asOptional? asText?) (.array (texts.map ofText?)) = some texts := by
  have htext : ∀ text ∈ texts, asOptional? asText? (ofText? text) = some (id text) := by
    rintro (_ | text) - <;> rfl
  rw [asList?_map htext, List.map_id]

/-- The members of a map by their keys. -/
theorem get?_members (key : String) : Keyed.get? key map.members =
    (((((((if key = "version" then some (.integer 3) else none).or
      (if key = "file" then map.file.map .text else none)).or
      (if key = "sources" then some (.array (map.rawSources.map .text)) else none)).or
      (if key = "sourceRoot" then map.root.map .text else none)).or
      (if key = "sourcesContent" then
        map.embedded.map fun texts => .array (texts.map ofText?) else none)).or
      (if key = "names" then some (.array (map.names.map .text)) else
        if key = "mappings" then
          some (.text (String.ofList (mappingChars map {} none map.mappings))) else none)).or
      (if key = "debug_id" then map.debugId.map fun id => .text id.text else none)) := by
  simp only [members, Keyed.get?_append, get?_member?, Keyed.get?_cons, Keyed.get?_nil]

/-- The parts of a map are read from its members in any order. -/
theorem parts?_of_perm (hdebugId : ∀ id ∈ map.debugId, DebugId.ofText? id.text = some id)
    (hperm : found.Perm map.members) : parts? (.object found) = some map.parts := by
  have hget : ∀ key, Keyed.get? key found = Keyed.get? key map.members := get?_found hperm
  have hnodup : (found.map (·.1)).Nodup := (hperm.map _).nodup_iff.mpr map.nodup_members
  have hrecord : (Json.object found).record? (shape 1) 13 = some found :=
    record?_of_nodup hnodup _ _
  have hversion : found.optional? "version" (asNatural? (2 ^ 32)) = some (some 3) :=
    optional?_of_written (f := fun n => .integer n) (by simp [hget, get?_members])
      (by simp [asNatural?])
  have hfile : found.optional? "file" some = some (map.file.map .text) :=
    optional?_of_written (f := id) (by simp [hget, get?_members]) (by simp)
  have hsources : found.optional? "sources" (asList? (asOptional? asText?)) =
      some (some (map.rawSources.map some)) :=
    optional?_of_written (f := fun texts => .array (texts.map ofText?))
      (by simp [hget, get?_members, ofText?, ofOption]) (by simp [asTexts?_ofText?])
  have hroot : found.optional? "sourceRoot" asText? = some map.root :=
    optional?_of_written (f := .text) (by simp [hget, get?_members]) (by simp [asText?])
  have hcontents : found.optional? "sourcesContent" (asList? (asOptional? asText?)) =
      some map.embedded :=
    optional?_of_written (f := fun texts => .array (texts.map ofText?))
      (by simp [hget, get?_members]) (by simp [asTexts?_ofText?])
  have hnames : found.optional? "names" asArray? = some (some (map.names.map .text)) :=
    optional?_of_written (f := .array) (by simp [hget, get?_members]) (by simp [asArray?])
  have hmappings : found.optional? "mappings" asText? =
      some (some (String.ofList (mappingChars map {} none map.mappings))) :=
    optional?_of_written (f := .text) (by simp [hget, get?_members]) (by simp [asText?])
  have hdebug : found.optional? "debug_id" DebugId.ofJson? = some map.debugId :=
    optional?_of_written (f := fun id : DebugId => .text id.text)
      (by simp [hget, get?_members])
      (by simpa [DebugId.ofJson?, asText?] using hdebugId)
  have habsent : ∀ key ∈ ["sections", "rangeMappings", "x_facebook_offsets",
      "x_metro_module_paths", "x_facebook_sources"], ∀ {α : Type} (decode : Json → Option α),
      found.optional? key decode = some none := by
    intro key hkey α decode
    have hnone : Keyed.get? key found = none := by
      revert key hkey
      simp [hget, get?_members]
    rw [Members.optional?, hnone]
  simp only [parts?, hrecord, Option.bind_eq_bind, Option.bind_some]
  rw [hversion, Option.bind_some, hfile, Option.bind_some, hsources, Option.bind_some, hroot,
    Option.bind_some, hcontents, Option.bind_some, habsent "sections" (by simp), Option.bind_some,
    hnames, Option.bind_some, habsent "rangeMappings" (by simp), Option.bind_some, hmappings,
    Option.bind_some, habsent "x_facebook_offsets" (by simp), Option.bind_some,
    habsent "x_metro_module_paths" (by simp), Option.bind_some,
    habsent "x_facebook_sources" (by simp), Option.bind_some, hdebug, Option.bind_some]
  have hpresent : (map.rawSources.map some).map (·.getD "") = map.rawSources := by
    rw [List.map_map]
    exact List.map_id _
  rw [Option.getD_some, hpresent]
  rfl

/-- The map that is read where one was written: the texts of sources and the mappings are those
that were written. -/
def reread (map : SourceMap) (mappings : List Mapping) : SourceMap :=
  { map with contents := map.embedded.getD [], mappings }

theorem nameText_text (names : List String) : (names.map .text).map nameText = names := by
  rw [List.map_map]
  exact List.map_id names

theorem ofParts_parts {read : List Mapping}
    (h : decodeMappings ⟨map.rawSources.length, map.names.length⟩
      (String.ofList (mappingChars map {} none map.mappings)) "" = .ok read) :
    ofParts map.parts = .ok (map.reread read) := by
  have hfile : (map.file.map Json.text).map fileText = map.file := by
    rw [Option.map_map]
    exact Option.map_id_apply
  have hbounds : map.parts.names.length = map.names.length := List.length_map ..
  simp only [ofParts, hbounds]
  simp only [parts, h, nameText_text, hfile]
  rfl

/-- A map is read from its members in any order. -/
theorem ofJson_of_perm {read : List Mapping}
    (hdebugId : ∀ id ∈ map.debugId, DebugId.ofText? id.text = some id)
    (hperm : found.Perm map.members)
    (hread : decodeMappings ⟨map.rawSources.length, map.names.length⟩
      (String.ofList (mappingChars map {} none map.mappings)) "" = .ok read) :
    ofJson (.object found) = .ok (map.reread read) := by
  have hparts := parts?_of_perm hdebugId hperm
  have hformed : isWellFormed ((Json.object found).depth + 1) (.object found) = true := by
    rw [isWellFormed, hparts]
    rfl
  rw [ofJson]
  simp only [hformed, hparts]
  rw [ofParts_parts hread]
  rfl

section Text

/-- A value that the document of a map may have as a member: it is read back as it is, it is passed
on as it is, and it is not nested deeply. -/
structure IsPlain (value : Json) : Prop where
  read : reread? .whole value = some value
  canonical : value.canonical = value
  shallow : value.depth ≤ 1

theorem isPlain_text (s : String) : IsPlain (.text s) := ⟨rfl, rfl, Nat.zero_le _⟩

/-- An item of a list in the document of a map. -/
inductive IsItem : Json → Prop
  | text (s : String) : IsItem (.text s)
  | null : IsItem .null

theorem isPlain_array {items : List Json} (h : ∀ item ∈ items, IsItem item) :
    IsPlain (.array items) := by
  have hread : ∀ item ∈ items, reread? .whole item = some item := by
    intro item hitem
    cases h item hitem <;> rfl
  have hcanonical : canonicalItems items = items := by
    rw [canonicalItems_eq]
    refine (List.map_congr_left fun item hitem => ?_).trans (List.map_id items)
    cases h item hitem <;> rfl
  have hdepth : depthItems items ≤ 0 := by
    refine depthItems_le_iff.mpr fun item hitem => ?_
    cases h item hitem <;> exact Nat.le_refl _
  exact ⟨reread?_whole_array hread, congrArg Json.array hcanonical, Nat.succ_le_succ hdepth⟩

/-- Every member of the document of a map is plain. -/
theorem isPlain_of_mem_members {member : String × Json} (h : member ∈ map.members) :
    IsPlain member.2 := by
  have htexts : ∀ texts : List String, IsPlain (.array (texts.map .text)) := by
    intro texts
    refine isPlain_array fun item hitem => ?_
    obtain ⟨s, -, rfl⟩ := List.mem_map.mp hitem
    exact .text s
  have hcontents : ∀ texts : List (Option String), IsPlain (.array (texts.map ofText?)) := by
    intro texts
    refine isPlain_array fun item hitem => ?_
    obtain ⟨_ | s, -, rfl⟩ := List.mem_map.mp hitem
    · exact .null
    · exact .text s
  simp only [members, member?, List.mem_append, List.mem_cons, List.not_mem_nil, or_false,
    Option.mem_toList, Option.map_map, Option.map_eq_some_iff] at h
  obtain ((((((rfl | ⟨s, -, rfl⟩) | rfl) | ⟨s, -, rfl⟩) | ⟨texts, -, rfl⟩) | rfl | rfl) |
    ⟨id, -, rfl⟩) := h
  · exact ⟨rfl, rfl, Nat.zero_le _⟩
  · exact isPlain_text s
  · exact htexts _
  · exact isPlain_text s
  · exact hcontents texts
  · exact htexts _
  · exact isPlain_text _
  · exact isPlain_text _

/-- The text of a map is a document with the members of the map, for whoever takes notice of all of
them. -/
theorem parse?_text {shape : Shape} (hnothing : shape.isNothing = false)
    (hshape : ∀ key ∈ documentKeys, shape.member key = .whole) :
    parse? shape map.text = some map.toJson := by
  have hmembers : rereadMembers? shape map.members = some map.members := by
    refine rereadMembers?_of_forall hnothing fun member hmember => ?_
    have hkey := map.keys_members.subset (List.mem_map_of_mem hmember)
    rw [hshape _ hkey, (isPlain_of_mem_members hmember).read]
  have hkept : keptFor shape (.object map.members) = .object map.members := by
    rw [keptFor, hnothing]
    rfl
  have hread : reread? shape map.toJson = some map.toJson := by
    rw [toJson_eq, reread?, hmembers, Option.map_some, hkept]
  have hdepth : map.toJson.depth ≤ depthLimit := by
    have hle : depthMembers map.members ≤ 1 :=
      depthMembers_le_iff.mpr fun member hmember => (isPlain_of_mem_members hmember).shallow
    rw [toJson_eq, Json.depth]
    exact Nat.le_trans (Nat.succ_le_succ hle) (by decide)
  rw [text, parse?_compact, hread, Option.filter_some, if_pos (by simpa using hdepth)]

/-- No byte of junk starts the text of a map. -/
theorem withoutJunk_text : withoutJunk map.text.toUTF8.toList = .ok map.text.toUTF8.toList := by
  have hbytes : ∃ rest, map.text.toUTF8.toList = 123 :: rest := by
    have hchars : map.text.toUTF8 = (map.toJson.chars).utf8Encode := rfl
    rw [Text.toList_eq, hchars, toJson_eq, chars, List.cons_append,
      List.utf8Encode_cons, ByteArray.data_append, Array.toList_append]
    exact ⟨_, rfl⟩
  obtain ⟨rest, hrest⟩ := hbytes
  rw [hrest]
  rfl

theorem member_shape (depth : Nat) :
    ∀ key ∈ documentKeys, (shape (depth + 1)).member key = .whole := by
  simp [documentKeys, shape, Shape.member, Keyed.get?_cons]

/-- The bytes of a map are read as its document. -/
theorem ofBytes_text : ofBytes map.text.toUTF8.toList = ofJson map.toJson := by
  have hdocument : ofBytes? (shape depthLimit) map.text.toUTF8.toList = some map.toJson := by
    rw [ofBytes?_toUTF8]
    exact parse?_text rfl (member_shape 126)
  simp only [ofBytes, withoutJunk_text, bind, Except.bind, hdocument]

/-- The value that a map is passed on as has the members of the map. -/
theorem exists_read?_text (map : SourceMap) : ∃ found, found.Perm map.members ∧
    (Json.read? map.text : Option Json) = some (.object found) := by
  refine ⟨Keyed.sorted map.members, Keyed.sorted_perm map.nodup_members, ?_⟩
  have hcanonical : canonicalMembers map.members = map.members :=
    canonicalMembers_of_forall fun member hmember => (isPlain_of_mem_members hmember).canonical
  have hparse : parse? .whole map.text = some map.toJson := parse?_text rfl fun _ _ => rfl
  change (parse? .whole map.text).bind passedOn = _
  rw [hparse, toJson_eq, Option.bind_some, passedOn, canonical, hcanonical]

end Text

end ComponentCompiler.SourceMap
