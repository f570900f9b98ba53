import ComponentCompiler.Component.Wire
import ComponentCompiler.Proofs.Json.Exchange

/-!
# Components come back

Blocks, compiled scripts and components are exchanged: whatever is decoded from a legible value is
written as one from which it is decoded again.
-/

namespace ComponentCompiler

open Json

variable {bound : Nat}

theorem BlockKind.ofName?_name (kind : BlockKind) : ofName? kind.name = some kind := by
  cases kind <;> decide

namespace Block

/-- A block whose attributes and offsets come back. -/
structure Settled (bound : Nat) (block : Block) : Prop where
  attributes : ComesBack .whole (bound + 1) attributesOf? .object block.attributes
  start : ComesBack .whole (bound + 1) (asNatural? offsetLimit) (fun n => .integer n) block.start
  stop : ComesBack .whole (bound + 1) (asNatural? offsetLimit) (fun n => .integer n) block.stop

/-- Attributes are kept in their canonical form, so that they stay as they are. -/
theorem exchanged_attributes : Exchanged .whole (bound + 1) attributesOf? .object := by
  intro value attributes hlegible hattributes
  cases value with
  | object members =>
    cases hattributes
    refine ⟨hlegible.canonical, ?_⟩
    refine congrArg some (sorted_canonicalMembers (Keyed.ascending_sorted _) ?_)
    intro member hmember
    obtain ⟨x, -, hcanonical⟩ := exists_of_mem_canonical hmember
    rw [hcanonical, canonical_canonical]
  | _ => cases hattributes

theorem comesBack_nil : ComesBack .whole (bound + 1) attributesOf? .object [] :=
  ⟨⟨rfl, Nat.succ_le_succ (Nat.zero_le _)⟩, rfl⟩

theorem settled_of_ofJson? {value : Json} {block : Block}
    (hlegible : Legible shape (bound + 2) value) (h : ofJson? value = some block) :
    block.Settled bound := by
  obtain ⟨members, hmembers, h⟩ := Option.bind_eq_some_iff.mp h
  obtain ⟨kind, -, h⟩ := Option.bind_eq_some_iff.mp h
  obtain ⟨content, -, h⟩ := Option.bind_eq_some_iff.mp h
  obtain ⟨src, -, h⟩ := Option.bind_eq_some_iff.mp h
  obtain ⟨lang, -, h⟩ := Option.bind_eq_some_iff.mp h
  obtain ⟨attributes, hattributes, h⟩ := Option.bind_eq_some_iff.mp h
  obtain ⟨start, hstart, h⟩ := Option.bind_eq_some_iff.mp h
  obtain ⟨stop, hstop, h⟩ := Option.bind_eq_some_iff.mp h
  cases h
  have hkept := hlegible.kept (by decide) hmembers
  have hzero : ComesBack .whole (bound + 1) (asNatural? offsetLimit) (fun n => .integer n) 0 :=
    comesBack_natural (Nat.le_refl _) (by decide)
  constructor
  · exact hkept.defaulted hattributes exchanged_attributes comesBack_nil rfl
  · exact hkept.defaulted hstart (exchanged_natural (Nat.le_refl _)) hzero rfl
  · exact hkept.defaulted hstop (exchanged_natural (Nat.le_refl _)) hzero rfl

variable (block : Block)

/-- The members that are written of a block. -/
def members : Members :=
  [("type", .text block.kind.name), ("content", .text block.content)] ++
    member? "src" (block.src.map .text) ++ member? "lang" (block.lang.map .text) ++
    member? "attrs" (if block.attributes.isEmpty then none else some (.object block.attributes)) ++
    [("start", .integer block.start), ("end", .integer block.stop)]

theorem toJson_eq : block.toJson = .object block.members := by
  rw [toJson, members]
  split <;> rfl

theorem nodup_members : (block.members.map (·.1)).Nodup := by
  have hkeys : (block.members.map (·.1)).Sublist
      ["type", "content", "src", "lang", "attrs", "start", "end"] := by
    rw [members]
    simp only [List.map_append]
    exact ((((List.Sublist.refl ["type", "content"]).append (keys_member? _ _)).append
      (keys_member? _ _)).append (keys_member? _ _)).append (.refl ["start", "end"])
  exact hkeys.nodup (by decide)

/-- The members of a block by their keys. -/
theorem get?_members (key : String) : Keyed.get? key block.members =
    (((((if key = "type" then some (.text block.kind.name) else
        if key = "content" then some (.text block.content) else none).or
      (if key = "src" then block.src.map .text else none)).or
      (if key = "lang" then block.lang.map .text else none)).or
      (if key = "attrs" then
        if block.attributes.isEmpty then none else some (.object block.attributes) else none)).or
      (if key = "start" then some (.integer block.start) else
        if key = "end" then some (.integer block.stop) else none)) := by
  simp only [members, Keyed.get?_append, get?_member?, Keyed.get?_cons, Keyed.get?_nil]

variable {block}

theorem Settled.legible (h : block.Settled bound) : Legible shape (bound + 2) block.toJson := by
  rw [toJson_eq]
  refine (legible_object_iff rfl).mpr ?_
  simp only [members, List.forall_mem_append, List.forall_mem_cons, forall_mem_member?,
    and_assoc]
  refine ⟨?_, ?_, nofun, ?_, ?_, ?_, h.start.legible, h.stop.legible, nofun⟩
  · exact (comesBack_text block.kind.name).legible
  · exact (comesBack_text block.content).legible
  · exact (optionComesBack_text block.src).legible
  · exact (optionComesBack_text block.lang).legible
  · intro attributes hattributes
    split at hattributes
    · cases hattributes
    · cases hattributes
      exact h.attributes.legible

theorem Settled.ofJson?_toJson (h : block.Settled bound) : ofJson? block.toJson = some block := by
  rw [toJson_eq, ofJson?, record?_of_nodup block.nodup_members]
  simp only [Option.bind_eq_bind, Option.bind_some]
  have hkind : block.members.required? "type" BlockKind.ofJson? = some block.kind := by
    rw [required?_of_get? (x := .text block.kind.name) (by simp [get?_members])]
    exact block.kind.ofName?_name
  have hcontent : block.members.defaulted? "content" "" asText? = some block.content := by
    simp [Members.defaulted?, get?_members, asText?]
  have hsrc : block.members.optional? "src" asText? = some block.src :=
    optional?_of_written (f := .text) (by simp [get?_members]) (by simp [asText?])
  have hlang : block.members.optional? "lang" asText? = some block.lang :=
    optional?_of_written (f := .text) (by simp [get?_members]) (by simp [asText?])
  have hattributes : block.members.defaulted? "attrs" [] attributesOf? = some block.attributes := by
    rw [Members.defaulted?, get?_members]
    cases hempty : block.attributes with
    | nil => rfl
    | cons first rest =>
      have hdecoded := h.attributes.decoded
      rw [hempty] at hdecoded
      exact hdecoded
  have hstart : block.members.defaulted? "start" 0 (asNatural? offsetLimit) = some block.start := by
    simp [Members.defaulted?, get?_members, h.start.decoded]
  have hstop : block.members.defaulted? "end" 0 (asNatural? offsetLimit) = some block.stop := by
    simp [Members.defaulted?, get?_members, h.stop.decoded]
  rw [hkind, Option.bind_some, hcontent, Option.bind_some, hsrc, Option.bind_some, hlang,
    Option.bind_some, hattributes, Option.bind_some, hstart, Option.bind_some, hstop,
    Option.bind_some]
  rfl

theorem exchanged : Exchanged shape (bound + 2) ofJson? toJson := by
  intro value block hlegible hblock
  have hsettled := settled_of_ofJson? hlegible hblock
  exact ⟨hsettled.legible, hsettled.ofJson?_toJson⟩

end Block

namespace CompiledScript

/-- A script whose source map and bindings come back. -/
structure Settled (bound : Nat) (script : CompiledScript) : Prop where
  map : OptionComesBack .whole bound passedOn id script.map
  bindings : OptionComesBack .whole bound passedOn id script.bindings

theorem passedOn_ne_null {x v : Json} (hx : x ≠ null) (h : passedOn x = some v) : v ≠ null := by
  cases h
  exact canonical_ne_null hx

theorem settled_of_ofJson? {value : Json} {script : CompiledScript}
    (hlegible : Legible shape (bound + 1) value) (h : ofJson? value = some script) :
    script.Settled bound := by
  obtain ⟨members, hmembers, h⟩ := Option.bind_eq_some_iff.mp h
  obtain ⟨content, -, h⟩ := Option.bind_eq_some_iff.mp h
  obtain ⟨src, -, h⟩ := Option.bind_eq_some_iff.mp h
  obtain ⟨lang, -, h⟩ := Option.bind_eq_some_iff.mp h
  obtain ⟨setup, -, h⟩ := Option.bind_eq_some_iff.mp h
  obtain ⟨map, hmap, h⟩ := Option.bind_eq_some_iff.mp h
  obtain ⟨bindings, hbindings, h⟩ := Option.bind_eq_some_iff.mp h
  cases h
  have hkept := hlegible.kept (by decide) hmembers
  constructor
  · exact hkept.optional hmap exchanged_passedOn rfl fun _ _ => passedOn_ne_null
  · exact hkept.optional hbindings exchanged_passedOn rfl fun _ _ => passedOn_ne_null

variable (script : CompiledScript)

/-- The members that are written of a script. -/
def members : Members :=
  [("content", .text script.content)] ++ member? "src" (script.src.map .text) ++
    member? "lang" (script.lang.map .text) ++ [("setup", .bool script.setup)] ++
    member? "map" script.map ++ member? "bindings" script.bindings

theorem nodup_members : (script.members.map (·.1)).Nodup := by
  have hkeys : (script.members.map (·.1)).Sublist
      ["content", "src", "lang", "setup", "map", "bindings"] := by
    rw [members]
    simp only [List.map_append]
    exact (((((List.Sublist.refl ["content"]).append (keys_member? _ _)).append
      (keys_member? _ _)).append (.refl ["setup"])).append (keys_member? _ _)).append
      (keys_member? _ _)
  exact hkeys.nodup (by decide)

/-- The members of a script by their keys. -/
theorem get?_members (key : String) : Keyed.get? key script.members =
    ((((((if key = "content" then some (.text script.content) else none).or
      (if key = "src" then script.src.map .text else none)).or
      (if key = "lang" then script.lang.map .text else none)).or
      (if key = "setup" then some (.bool script.setup) else none)).or
      (if key = "map" then script.map else none)).or
      (if key = "bindings" then script.bindings else none)) := by
  simp only [members, Keyed.get?_append, get?_member?, Keyed.get?_cons, Keyed.get?_nil]

variable {script}

theorem Settled.legible (h : script.Settled bound) : Legible shape (bound + 1) script.toJson := by
  change Legible shape (bound + 1) (.object script.members)
  refine (legible_object_iff rfl).mpr ?_
  simp only [members, List.forall_mem_append, List.forall_mem_cons, forall_mem_member?,
    and_assoc]
  refine ⟨?_, nofun, ?_, ?_, ?_, nofun, ?_, ?_⟩
  · exact (comesBack_text script.content).legible
  · exact (optionComesBack_text script.src).legible
  · exact (optionComesBack_text script.lang).legible
  · exact (comesBack_bool script.setup).legible
  · exact fun map hmap => (h.map.comesBack map hmap).legible
  · exact fun bindings hbindings => (h.bindings.comesBack bindings hbindings).legible

theorem Settled.ofJson?_toJson (h : script.Settled bound) :
    ofJson? script.toJson = some script := by
  change ofJson? (.object script.members) = some script
  rw [ofJson?, record?_of_nodup script.nodup_members]
  simp only [Option.bind_eq_bind, Option.bind_some]
  have hcontent : script.members.defaulted? "content" "" asText? = some script.content := by
    simp [Members.defaulted?, get?_members, asText?]
  have hsrc : script.members.optional? "src" asText? = some script.src :=
    optional?_of_written (f := .text) (by simp [get?_members]) (by simp [asText?])
  have hlang : script.members.optional? "lang" asText? = some script.lang :=
    optional?_of_written (f := .text) (by simp [get?_members]) (by simp [asText?])
  have hsetup : script.members.defaulted? "setup" false asBool? = some script.setup := by
    simp [Members.defaulted?, get?_members, asBool?]
  have hmap : script.members.optional? "map" passedOn = some script.map :=
    h.map.decoded (by simp [get?_members])
  have hbindings : script.members.optional? "bindings" passedOn = some script.bindings :=
    h.bindings.decoded (by simp [get?_members])
  rw [hcontent, Option.bind_some, hsrc, Option.bind_some, hlang, Option.bind_some, hsetup,
    Option.bind_some, hmap, Option.bind_some, hbindings, Option.bind_some]
  rfl

theorem exchanged : Exchanged shape (bound + 1) ofJson? toJson := by
  intro value script hlegible hscript
  have hsettled := settled_of_ofJson? hlegible hscript
  exact ⟨hsettled.legible, hsettled.ofJson?_toJson⟩

end CompiledScript

namespace Descriptor

/-- A component whose blocks come back. -/
structure Settled (bound : Nat) (d : Descriptor) : Prop where
  template : OptionComesBack Block.shape (bound + 3) Block.ofJson? Block.toJson d.template
  script : OptionComesBack Block.shape (bound + 3) Block.ofJson? Block.toJson d.script
  scriptSetup : OptionComesBack Block.shape (bound + 3) Block.ofJson? Block.toJson d.scriptSetup
  styles : ComesBack (.list Block.shape) (bound + 3) (asList? Block.ofJson?)
    (fun blocks => .array (blocks.map Block.toJson)) d.styles

theorem settled_of_ofJson? {value : Json} {d : Descriptor}
    (hlegible : Legible shape (bound + 4) value) (h : ofJson? value = some d) :
    d.Settled bound := by
  obtain ⟨members, hmembers, h⟩ := Option.bind_eq_some_iff.mp h
  obtain ⟨template, htemplate, h⟩ := Option.bind_eq_some_iff.mp h
  obtain ⟨script, hscript, h⟩ := Option.bind_eq_some_iff.mp h
  obtain ⟨scriptSetup, hscriptSetup, h⟩ := Option.bind_eq_some_iff.mp h
  obtain ⟨styles, hstyles, h⟩ := Option.bind_eq_some_iff.mp h
  cases h
  have hkept := hlegible.kept (by decide) hmembers
  constructor
  · exact hkept.optional htemplate Block.exchanged rfl fun _ _ _ _ => Json.noConfusion
  · exact hkept.optional hscript Block.exchanged rfl fun _ _ _ _ => Json.noConfusion
  · exact hkept.optional hscriptSetup Block.exchanged rfl fun _ _ _ _ => Json.noConfusion
  · exact hkept.defaulted hstyles Block.exchanged.list (.list nofun) rfl

variable (d : Descriptor)

/-- The members that are written of a component. -/
def members : Members :=
  [("template", ofOption (d.template.map Block.toJson)),
    ("script", ofOption (d.script.map Block.toJson)),
    ("scriptSetup", ofOption (d.scriptSetup.map Block.toJson)),
    ("styles", .array (d.styles.map Block.toJson))]

theorem nodup_members : (d.members.map (·.1)).Nodup := by simp [members]

variable {d}

theorem Settled.legible (h : d.Settled bound) : Legible shape (bound + 4) d.toJson := by
  refine (legible_object_iff rfl).mpr ?_
  simp only [List.forall_mem_cons]
  exact ⟨h.template.legible_ofOption, h.script.legible_ofOption, h.scriptSetup.legible_ofOption,
    h.styles.legible, nofun⟩

theorem Settled.ofJson?_toJson (h : d.Settled bound) : ofJson? d.toJson = some d := by
  change ofJson? (.object d.members) = some d
  rw [ofJson?, record?_of_nodup d.nodup_members]
  simp only [Option.bind_eq_bind, Option.bind_some]
  have hstyles : d.members.defaulted? "styles" [] (asList? Block.ofJson?) = some d.styles :=
    h.styles.decoded
  rw [h.template.decoded_ofOption rfl, Option.bind_some, h.script.decoded_ofOption rfl,
    Option.bind_some, h.scriptSetup.decoded_ofOption rfl, Option.bind_some, hstyles,
    Option.bind_some]
  rfl

theorem exchanged : Exchanged shape (bound + 4) ofJson? toJson := by
  intro value d hlegible hd
  have hsettled := settled_of_ofJson? hlegible hd
  exact ⟨hsettled.legible, hsettled.ofJson?_toJson⟩

end Descriptor

end ComponentCompiler
