import ComponentCompiler.Proofs.Json.Legible

/-!
# Types that are exchanged as JSON

A type is exchanged if whatever is decoded of a legible value is written as a legible value, from
which it is decoded again (`Exchanged`). Texts, numbers, names, values that are passed on and lists
are exchanged, and a record is if each of its fields is (`Kept.required`, `Kept.optional`,
`Kept.defaulted`). A type that is exchanged comes back from its documents (`Exchanged.roundTrips`).
-/

namespace ComponentCompiler.Json

variable {α : Type} {shape : Shape} {bound : Nat} {decode : Json → Option α} {toJson : α → Json}

/-- What is written of a value is legible, and the value is decoded from it. -/
structure ComesBack (shape : Shape) (bound : Nat) (decode : Json → Option α) (toJson : α → Json)
    (v : α) : Prop where
  legible : Legible shape bound (toJson v)
  decoded : decode (toJson v) = some v

/-- A value comes back if there is one, and is not mistaken for none. -/
structure OptionComesBack (shape : Shape) (bound : Nat) (decode : Json → Option α)
    (toJson : α → Json) (found : Option α) : Prop where
  ne_null : ∀ v ∈ found, toJson v ≠ null
  comesBack : ∀ v ∈ found, ComesBack shape bound decode toJson v

/-- Whatever is decoded from a legible value comes back. -/
def Exchanged (shape : Shape) (bound : Nat) (decode : Json → Option α) (toJson : α → Json) : Prop :=
  ∀ value v, Legible shape bound value → decode value = some v →
    ComesBack shape bound decode toJson v

section Kinds

theorem comesBack_text (s : String) : ComesBack .whole bound asText? .text s :=
  ⟨⟨rfl, Nat.zero_le _⟩, rfl⟩

theorem optionComesBack_text (found : Option String) :
    OptionComesBack .whole bound asText? .text found :=
  ⟨fun _ _ => Json.noConfusion, fun s _ => comesBack_text s⟩

theorem comesBack_bool (b : Bool) : ComesBack .whole bound asBool? .bool b :=
  ⟨⟨rfl, Nat.zero_le _⟩, rfl⟩

theorem comesBack_natural {n limit : Nat} (hlimit : limit ≤ 2 ^ 64) (hn : n < limit) :
    ComesBack .whole bound (asNatural? limit) (fun n => .integer n) n :=
  ⟨⟨reread?_integer (by omega) (by omega) rfl, Nat.zero_le _⟩, asNatural?_integer hn⟩

theorem exchanged_natural {limit : Nat} (hlimit : limit ≤ 2 ^ 64) :
    Exchanged .whole bound (asNatural? limit) (fun n => .integer n) := by
  intro value n _ hn
  unfold asNatural? at hn
  split at hn
  · simp only [Option.ite_none_right_eq_some, Bool.and_eq_true, decide_eq_true_eq,
      Option.some.injEq] at hn
    exact comesBack_natural hlimit (by omega)
  · cases hn

theorem comesBack_number {x : Binary64} (h : x.Normal) :
    ComesBack .whole bound asNumber? .float x :=
  ⟨⟨reread?_float h rfl, Nat.zero_le _⟩, rfl⟩

theorem normal_of_asNumber? {value : Json} {x : Binary64} (hlegible : Legible .whole bound value)
    (h : asNumber? value = some x) : x.Normal := by
  unfold asNumber? at h
  split at h
  · cases h
    exact hlegible.normal
  · exact Binary64.normal_of_ofRatio? Nat.one_ne_zero h
  · cases h

/-- A whole number that stands for a floating-point one is written as that. -/
theorem exchanged_number : Exchanged .whole bound asNumber? .float := by
  intro value x hlegible hx
  exact comesBack_number (normal_of_asNumber? hlegible hx)

/-- A value of unknown shape that is passed on stays as it is from then on. -/
theorem exchanged_passedOn : Exchanged .whole bound passedOn id := by
  intro value v hlegible hv
  cases hv
  exact ⟨hlegible.canonical, congrArg some (canonical_canonical value)⟩

theorem ComesBack.list {values : List α} (h : ∀ v ∈ values, ComesBack shape bound decode toJson v) :
    ComesBack (.list shape) (bound + 1) (asList? decode) (fun values => .array (values.map toJson))
      values := by
  constructor
  · refine (legible_array_iff rfl).mpr fun index item hitem => ?_
    rw [List.getElem?_map] at hitem
    obtain ⟨v, hv, rfl⟩ := Option.map_eq_some_iff.mp hitem
    exact (h v (List.mem_of_getElem? hv)).legible
  · have hread := asList?_map (g := id) fun v hv => (h v hv).decoded
    rwa [List.map_id] at hread

theorem Exchanged.list (h : Exchanged shape bound decode toJson) :
    Exchanged (.list shape) (bound + 1) (asList? decode)
      (fun values => .array (values.map toJson)) := by
  intro value values hlegible hvalues
  cases value with
  | array items =>
    refine ComesBack.list fun v hv => ?_
    obtain ⟨item, hitem, hdecode⟩ := exists_of_mem_mapM hvalues hv
    obtain ⟨index, hindex⟩ := List.mem_iff_getElem?.mp hitem
    exact h item v ((legible_array_iff rfl).mp hlegible index item hindex) hdecode
  | _ => cases hvalues

end Kinds

section Records

variable {least : Nat} {members : Members} {key : String} {value : Json} {field : Shape}
  {fields : List (String × Shape)}

/-- What the members of a record are decoded from is legible. -/
structure Kept (shape : Shape) (bound : Nat) (members : Members) : Prop where
  get? : ∀ key x, Keyed.get? key members = some x → Legible (shape.member key) bound x

theorem Legible.kept (h : Legible (.record fields) (bound + 1) value)
    (hkeys : (fields.map (·.1)).Nodup)
    (hrecord : value.record? (.record fields) least = some members) :
    Kept (.record fields) bound members :=
  ⟨fun _ _ hget => h.get? hkeys hrecord hget⟩

theorem Kept.required (h : Kept shape bound members) {v : α}
    (hv : members.required? key decode = some v) (hexchanged : Exchanged field bound decode toJson)
    (hfield : shape.member key = field) : ComesBack field bound decode toJson v := by
  obtain ⟨x, hx, hdecode⟩ := Option.bind_eq_some_iff.mp hv
  exact hexchanged x v (hfield ▸ h.get? key x hx) hdecode

/-- That a value is not written as null is of interest for values of unknown shape. -/
theorem Kept.optional (h : Kept shape bound members) {found : Option α}
    (hfound : members.optional? key decode = some found)
    (hexchanged : Exchanged field bound decode toJson) (hfield : shape.member key = field)
    (hnull : ∀ x v, x ≠ null → decode x = some v → toJson v ≠ null) :
    OptionComesBack field bound decode toJson found := by
  unfold Members.optional? at hfound
  split at hfound
  · cases hfound
    exact ⟨nofun, nofun⟩
  · cases hfound
    exact ⟨nofun, nofun⟩
  · rename_i x hx hget
    obtain ⟨v, hv, rfl⟩ := Option.map_eq_some_iff.mp hfound
    constructor
    · rintro _ ⟨⟩
      exact hnull x v hx hv
    · rintro _ ⟨⟩
      exact hexchanged x v (hfield ▸ h.get? key x hget) hv

theorem Kept.defaulted (h : Kept shape bound members) {default v : α}
    (hv : members.defaulted? key default decode = some v)
    (hexchanged : Exchanged field bound decode toJson)
    (hdefault : ComesBack field bound decode toJson default) (hfield : shape.member key = field) :
    ComesBack field bound decode toJson v := by
  unfold Members.defaulted? at hv
  split at hv
  · cases hv
    exact hdefault
  · rename_i x hget
    exact hexchanged x v (hfield ▸ h.get? key x hget) hv

/-- Members that are written are legible if each of them is. -/
theorem forall_mem_member? {P : String × Json → Prop} {x : Option Json} :
    (∀ member ∈ member? key x, P member) ↔ ∀ v ∈ x, P (key, v) := by
  cases x <;> simp [member?]

variable {found : Option α}

theorem OptionComesBack.legible (h : OptionComesBack shape bound decode toJson found) :
    ∀ x ∈ found.map toJson, Legible shape bound x :=
  Option.forall_mem_map.mpr fun v hv => (h.comesBack v hv).legible

theorem OptionComesBack.legible_ofOption (h : OptionComesBack shape bound decode toJson found) :
    Legible shape bound (ofOption (found.map toJson)) := by
  cases found with
  | none => exact ⟨rfl, Nat.zero_le _⟩
  | some v => exact (h.comesBack v rfl).legible

/-- A member that is left out where there is no value is decoded again. -/
theorem OptionComesBack.decoded (h : OptionComesBack shape bound decode toJson found)
    (hget : Keyed.get? key members = found.map toJson) :
    members.optional? key decode = some found :=
  optional?_of_written hget fun v hv => ⟨h.ne_null v hv, (h.comesBack v hv).decoded⟩

/-- A member that is null where there is no value is decoded again. -/
theorem OptionComesBack.decoded_ofOption (h : OptionComesBack shape bound decode toJson found)
    (hget : Keyed.get? key members = some (ofOption (found.map toJson))) :
    members.optional? key decode = some found :=
  optional?_of_nullable hget fun v hv => ⟨h.ne_null v hv, (h.comesBack v hv).decoded⟩

end Records

section RoundTrips

/-- What is read of a type is read again from what is printed of it, and so is printed again as it
was. -/
def RoundTripsBy [Readable α] (print : Json → String) (toJson : α → Json) : Prop :=
  ∀ document (v : α), read? document = some v →
    read? (print (toJson v)) = some v ∧
      (read? (print (toJson v))).map (fun again => print (toJson again)) = some (print (toJson v))

/-- A type comes back from its documents, compact and indented ones. -/
structure RoundTrips [Readable α] (toJson : α → Json) : Prop where
  compact : RoundTripsBy compact toJson
  pretty : RoundTripsBy pretty toJson

theorem Exchanged.roundTripsBy [Readable α] {toJson : α → Json} {print : Json → String}
    (h : Exchanged (Readable.shape α) depthLimit Readable.ofJson? toJson)
    (hprint : ∀ value, Legible (Readable.shape α) depthLimit value →
      parse? (Readable.shape α) (print value) = some value) : RoundTripsBy print toJson := by
  intro document v hread
  obtain ⟨value, hvalue, hv⟩ := Option.bind_eq_some_iff.mp hread
  have hback := h value v (legible_of_parse? hvalue) hv
  have hagain : read? (print (toJson v)) = some v := by
    rw [read?, hprint _ hback.legible, Option.bind_some, hback.decoded]
  exact ⟨hagain, by rw [hagain, Option.map_some]⟩

/-- A type that is exchanged comes back from what is written of it. -/
theorem Exchanged.roundTrips [Readable α] {toJson : α → Json}
    (h : Exchanged (Readable.shape α) depthLimit Readable.ofJson? toJson) : RoundTrips toJson where
  compact := h.roundTripsBy fun _ => parse?_compact_of_legible
  pretty := h.roundTripsBy fun _ => parse?_pretty_of_legible

end RoundTrips

end ComponentCompiler.Json
