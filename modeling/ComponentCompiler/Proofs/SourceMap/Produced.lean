import ComponentCompiler.Proofs.Results
import ComponentCompiler.Proofs.SourceMap.Compose
import ComponentCompiler.Proofs.SourceMap.DebugId
import ComponentCompiler.Proofs.SourceMap.Merge
import ComponentCompiler.SourceMap.Decode

/-!
# Maps that come about

Maps are read, made for a single source, merged and composed. However a map came about, its
mappings carry no number outside its tables, and its identifier is one that a text can name
(`Produced.sound`).
-/

namespace ComponentCompiler.SourceMap

/-- A map that refers to nothing that it does not have, and whose identifier can be written. -/
structure Sound (map : SourceMap) : Prop where
  source : ∀ m ∈ map.mappings, ∀ id ∈ m.source, id < map.rawSources.length
  name : ∀ m ∈ map.mappings, ∀ id ∈ m.name, id < map.names.length
  debugId : ∀ id ∈ map.debugId, DebugId.ofText? id.text = some id

section Read

variable {bounds : Bounds}

/-- The numbers of a mapping are in bounds. -/
def InBounds (bounds : Bounds) (m : Mapping) : Prop :=
  (∀ id ∈ m.source, id < bounds.sources) ∧ ∀ id ∈ m.name, id < bounds.names

theorem lt_of_checked {error : Nat → MapError} {bound n : Nat} {id : UInt32}
    (h : checked error bound id = .ok n) : n < bound := by
  rw [checked] at h
  split at h
  · cases h
    assumption
  · cases h

theorem inBounds_of_mappingOf {line column : UInt32} {isRange : Bool} {cursor after : Cursor}
    {numbers : List Int} {m : Mapping}
    (h : mappingOf bounds line column isRange cursor numbers = .ok (m, after)) :
    InBounds bounds m := by
  unfold mappingOf at h
  split at h
  · cases h
    exact ⟨nofun, nofun⟩
  · obtain ⟨known, hknown, h⟩ := bind_eq_ok h
    cases h
    refine ⟨?_, nofun⟩
    rintro id ⟨⟩
    exact lt_of_checked hknown
  · obtain ⟨known, hknown, h⟩ := bind_eq_ok h
    obtain ⟨knownName, hknownName, h⟩ := bind_eq_ok h
    cases h
    constructor
    · rintro id ⟨⟩
      exact lt_of_checked hknown
    · rintro id ⟨⟩
      exact lt_of_checked hknownName
  · cases h

theorem inBounds_of_lineMappings {line column : UInt32} {cursor after : Cursor}
    {segments : List (List Char × Bool)} {ms : List Mapping}
    (h : lineMappings bounds line column cursor segments = .ok (ms, after)) :
    ∀ m ∈ ms, InBounds bounds m := by
  fun_induction lineMappings bounds line column cursor segments generalizing ms after with
  | case1 =>
      cases h
      exact nofun
  | case2 column cursor isRange rest ih => exact ih h
  | case3 column cursor segment isRange rest hne ih =>
      obtain ⟨numbers, -, h⟩ := bind_eq_ok h
      obtain ⟨⟨mapping, next⟩, hmapping, h⟩ := bind_eq_ok h
      obtain ⟨⟨more, last⟩, hmore, h⟩ := bind_eq_ok h
      cases h
      exact List.forall_mem_cons.mpr ⟨inBounds_of_mappingOf hmapping, ih _ _ hmore⟩

/-- Whatever is read of mappings is in bounds. -/
theorem inBounds_of_linesMappings {line : Nat} {cursor : Cursor} {lines ranges : List (List Char)}
    {ms : List Mapping} (h : linesMappings bounds line cursor lines ranges = .ok ms) :
    ∀ m ∈ ms, InBounds bounds m := by
  fun_induction linesMappings bounds line cursor lines ranges generalizing ms with
  | case1 =>
      cases h
      exact nofun
  | case2 line cursor text rest ranges hempty ih => exact ih h
  | case3 line cursor text rest ranges hfilled ih =>
      obtain ⟨flags, -, h⟩ := bind_eq_ok h
      obtain ⟨⟨here, next⟩, hhere, h⟩ := bind_eq_ok h
      obtain ⟨more, hmore, h⟩ := bind_eq_ok h
      cases h
      intro m hm
      rcases List.mem_append.mp hm with hm | hm
      · exact inBounds_of_lineMappings hhere m hm
      · exact ih _ hmore m hm

/-- An identifier that is read is read again from its text. -/
theorem ofText?_of_optional? {members : Json.Members} {found : Option DebugId}
    (h : members.optional? "debug_id" DebugId.ofJson? = some found) :
    ∀ id ∈ found, DebugId.ofText? id.text = some id := by
  rw [Json.Members.optional?] at h
  split at h
  · cases h
    exact nofun
  · cases h
    exact nofun
  · obtain ⟨id, hid, rfl⟩ := Option.map_eq_some_iff.mp h
    obtain ⟨text, -, htext⟩ := Option.bind_eq_some_iff.mp hid
    rintro _ ⟨⟩
    exact DebugId.ofText?_text (DebugId.lt_of_ofText? htext).1 (DebugId.lt_of_ofText? htext).2

theorem ofText?_of_parts? {document : Json} {parts : Parts} (h : parts? document = some parts) :
    ∀ id ∈ parts.debugId, DebugId.ofText? id.text = some id := by
  obtain ⟨members, -, h⟩ := Option.bind_eq_some_iff.mp h
  obtain ⟨version, -, h⟩ := Option.bind_eq_some_iff.mp h
  obtain ⟨file, -, h⟩ := Option.bind_eq_some_iff.mp h
  obtain ⟨sources, -, h⟩ := Option.bind_eq_some_iff.mp h
  obtain ⟨root, -, h⟩ := Option.bind_eq_some_iff.mp h
  obtain ⟨contents, -, h⟩ := Option.bind_eq_some_iff.mp h
  obtain ⟨sections, -, h⟩ := Option.bind_eq_some_iff.mp h
  obtain ⟨names, -, h⟩ := Option.bind_eq_some_iff.mp h
  obtain ⟨ranges, -, h⟩ := Option.bind_eq_some_iff.mp h
  obtain ⟨mappings, -, h⟩ := Option.bind_eq_some_iff.mp h
  obtain ⟨offsets, -, h⟩ := Option.bind_eq_some_iff.mp h
  obtain ⟨modules, -, h⟩ := Option.bind_eq_some_iff.mp h
  obtain ⟨functions, -, h⟩ := Option.bind_eq_some_iff.mp h
  obtain ⟨debugId, hdebugId, h⟩ := Option.bind_eq_some_iff.mp h
  cases h
  exact ofText?_of_optional? hdebugId

/-- A map that is read is that of the parts of its document. -/
theorem exists_parts_of_ofJson {document : Json} {map : SourceMap} (h : ofJson document = .ok map) :
    ∃ parts, parts? document = some parts ∧ ofParts parts = .ok map := by
  rw [ofJson] at h
  dsimp only at h
  split at h
  · rename_i parts hformed hparts
    split at h
    · cases h
    · obtain ⟨found, hfound, h⟩ := bind_eq_ok h
      split at h
      · cases h
      · cases h
        exact ⟨parts, hparts, hfound⟩
  · cases h

theorem sound_of_ofJson {document : Json} {map : SourceMap} (h : ofJson document = .ok map) :
    Sound map := by
  obtain ⟨parts, hparts, hmap⟩ := exists_parts_of_ofJson h
  obtain ⟨mappings, hmappings, hmap⟩ := bind_eq_ok hmap
  cases hmap
  have hbounds := inBounds_of_linesMappings hmappings
  refine ⟨fun m hm => (hbounds m hm).1, fun m hm => ?_, ofText?_of_parts? hparts⟩
  dsimp only
  rw [List.length_map]
  exact (hbounds m hm).2

end Read

section Built

variable {component transpile target : SourceMap}

theorem Built.sound {map : SourceMap} (built : Built map) (hdebugId : map.debugId = none) :
    Sound map := by
  refine ⟨built.source, built.name, ?_⟩
  rw [hdebugId]
  exact nofun

theorem sound_identity (file content : String) : Sound (identity file content) := by
  have hgo : ∀ number lines, ∀ m ∈ identity.go number lines, m.source = some 0 ∧ m.name = none := by
    intro number lines
    fun_induction identity.go number lines with
    | case1 => exact nofun
    | case2 number line rest hblank ih => exact ih
    | case3 number line rest here hblank ih => exact List.forall_mem_cons.mpr ⟨⟨rfl, rfl⟩, ih⟩
  refine ⟨fun m hm id hid => ?_, fun m hm id hid => ?_, nofun⟩
  · rw [(hgo _ _ m hm).1] at hid
    cases hid
    exact Nat.one_pos
  · rw [(hgo _ _ m hm).2] at hid
    cases hid

theorem debugId_mergeSource (component transpile target : SourceMap) (source : String) :
    (mergeSource component transpile target source).2.debugId = target.debugId := by
  rw [mergeSource_eq]
  split <;> rfl

theorem debugId_mergeMapping (component transpile target : SourceMap) (m : Mapping) :
    (mergeMapping component transpile target m).debugId = target.debugId := by
  unfold mergeMapping
  split
  · split
    · rfl
    · rename_i source hsource
      have hsame := debugId_mergeSource component transpile target source
      cases component.nameOf _ <;> exact hsame
  · rfl

theorem sound_merge (component transpile : SourceMap) : Sound (merge component transpile) := by
  have hfold : ∀ (ms : List Mapping) (target : SourceMap), Built target → target.debugId = none →
      Sound (ms.foldl (mergeMapping component transpile) target) := by
    intro ms
    induction ms with
    | nil => exact fun target built hdebugId => built.sound hdebugId
    | cons m ms ih =>
        intro target built hdebugId
        refine ih _ ?_ ((debugId_mergeMapping component transpile target m).trans hdebugId)
        cases h : tracedSegment component transpile m with
        | none => exact mergeMapping_of_none h ▸ built
        | some s => exact (mergeMapping_of_some built h).1
  exact hfold transpile.mappings _ (built_empty _) rfl

theorem debugId_appendSources (target : SourceMap) (sources : List (String × Option String)) :
    (appendSources target sources).2.debugId = target.debugId := by
  induction sources generalizing target with
  | nil => rfl
  | cons pair sources ih =>
      refine (ih _).trans ?_
      split <;> rfl

theorem debugId_appendNames (target : SourceMap) (names : List String) :
    (appendNames target names).2.debugId = target.debugId := by
  induction names generalizing target with
  | nil => rfl
  | cons name names ih => exact ih _

theorem debugId_append (target map : SourceMap) (offset : UInt32) :
    (append target map offset).debugId = target.debugId :=
  (debugId_appendNames _ map.names).trans (debugId_appendSources target _)

theorem sound_append {target : SourceMap} (built : Built target) (hdebugId : target.debugId = none)
    (map : SourceMap) (offset : UInt32) : Sound (append target map offset) :=
  (built.append map offset).sound ((debugId_append target map offset).trans hdebugId)

/-- Composing leaves a map alone or makes a new one. -/
theorem sound_compose {script template : Option SourceMap} {portion : String} {map : SourceMap}
    (hscript : ∀ m ∈ script, Sound m) (htemplate : ∀ m ∈ template, Sound m)
    (h : compose script template portion = some map) : Sound map := by
  unfold compose at h
  split at h
  · exact hscript map h
  · split at h
    · exact htemplate map h
    · cases h
      exact sound_append (built_empty _) rfl _ _
  · cases h
    exact sound_append ((built_empty _).append _ _) (debugId_append _ _ _) _ _

end Built

/-- The maps that come about: those that are read, those of a single source, and those that are put
together. -/
inductive Produced : SourceMap → Prop
  | read {document : Json} {map : SourceMap} (h : ofJson document = .ok map) : Produced map
  | identity (file content : String) : Produced (identity file content)
  | merge {component transpile : SourceMap} (hcomponent : Produced component)
      (htranspile : Produced transpile) : Produced (merge component transpile)
  | compose {script template : Option SourceMap} {portion : String} {map : SourceMap}
      (hscript : ∀ m, script = some m → Produced m)
      (htemplate : ∀ m, template = some m → Produced m)
      (h : compose script template portion = some map) : Produced map

/-- However a map came about, it refers to nothing that it does not have. -/
theorem Produced.sound {map : SourceMap} (h : Produced map) : Sound map := by
  induction h with
  | read h => exact sound_of_ofJson h
  | identity file content => exact sound_identity file content
  | merge => exact sound_merge _ _
  | compose hscript htemplate h ihscript ihtemplate => exact sound_compose ihscript ihtemplate h

end ComponentCompiler.SourceMap
