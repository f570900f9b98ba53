import ComponentCompiler.Collaborator.Wire
import ComponentCompiler.Proofs.Json.Members

/-!
# What complaints are read from

The shapes of a complaint are described as relations between members and what they mean, one
constructor for each way of writing: a record may stand as an object or as the list of its values.
A key that a shape knows stands at most once (`Holds`, `Lacks`); nothing is said about other keys.
An object is read as a complaint exactly if it has the flat shape, or else the located one
(`ofJson?_object_iff`).
-/

namespace ComponentCompiler

namespace Json

theorem asText?_eq_some_iff (value : Json) (s : String) :
    value.asText? = some s ↔ value = .text s := by
  cases value <;> simp [asText?]

theorem asNatural?_eq_some_iff {value : Json} {limit n : Nat} :
    value.asNatural? limit = some n ↔ value = .integer n ∧ n < limit := by
  constructor
  · intro h
    unfold asNatural? at h
    split at h
    · rename_i i
      obtain ⟨hbounds, hn⟩ := Option.ite_none_right_eq_some.mp h
      simp only [Bool.and_eq_true, decide_eq_true_eq] at hbounds
      obtain rfl := Option.some.inj hn
      exact ⟨congrArg integer (by omega), by omega⟩
    · cases h
  · rintro ⟨rfl, h⟩
    exact asNatural?_integer h

namespace Members

variable {α : Type} {members : Members} {key : String}

/-- The only member with a key has the value. -/
def Holds (members : Members) (key : String) (value : Json) : Prop :=
  (members.filter fun member => member.1 == key) = [(key, value)]

/-- No member has the key. -/
def Lacks (members : Members) (key : String) : Prop := ∀ member ∈ members, member.1 ≠ key

/-- A key that is not repeated. -/
def Once (members : Members) (key : String) : Prop :=
  (members.filter fun member => member.1 == key).length ≤ 1

/-- A member that may be left out, or be null instead. -/
inductive Optionally (means : Json → α → Prop) (members : Members) (key : String) :
    Option α → Prop
  | absent (h : members.Lacks key) : Optionally means members key none
  | null (h : members.Holds key .null) : Optionally means members key none
  | given {value : Json} {a : α} (h : members.Holds key value) (hmeans : means value a) :
      Optionally means members key (some a)

theorem lacks_iff : members.Lacks key ↔ (members.filter fun member => member.1 == key) = [] := by
  simp [Lacks, List.filter_eq_nil_iff]

theorem get?_eq_head? (members : Members) (key : String) :
    Keyed.get? key members = ((members.filter fun member => member.1 == key).head?).map (·.2) := by
  induction members with
  | nil => rfl
  | cons member members ih =>
      rw [Keyed.get?_cons, List.filter_cons]
      by_cases h : key = member.1
      · simp [h]
      · simp [h, Ne.symm h, ih]

theorem get?_eq_none_iff : Keyed.get? key members = none ↔ members.Lacks key := by
  rw [lacks_iff, get?_eq_head?, Option.map_eq_none_iff, List.head?_eq_none_iff]

theorem Holds.get? {value : Json} (h : members.Holds key value) :
    Keyed.get? key members = some value := by
  rw [get?_eq_head?, h]
  rfl

theorem Once.get?_eq_some_iff (h : members.Once key) {value : Json} :
    Keyed.get? key members = some value ↔ members.Holds key value := by
  refine ⟨fun hget => ?_, Holds.get?⟩
  rw [get?_eq_head?] at hget
  obtain ⟨⟨k, v⟩, hhead, rfl⟩ := Option.map_eq_some_iff.mp hget
  obtain ⟨rest, hfilter⟩ := List.head?_eq_some_iff.mp hhead
  have hk : k = key := by
    have hmem : (k, v) ∈ members.filter fun member => member.1 == key := by simp [hfilter]
    simpa using (List.mem_filter.mp hmem).2
  have hrest : rest = [] := by simpa [Once, hfilter] using h
  rw [Holds, hfilter, hk, hrest]

theorem Holds.once {value : Json} (h : members.Holds key value) : members.Once key := by
  rw [Once, h]
  exact Nat.le_refl 1

theorem Lacks.once (h : members.Lacks key) : members.Once key := by
  rw [Once, lacks_iff.mp h]
  exact Nat.zero_le 1

theorem Optionally.once {means : Json → α → Prop} {x : Option α}
    (h : Optionally means members key x) : members.Once key := by
  cases h with
  | absent h => exact h.once
  | null h => exact h.once
  | given h _ => exact h.once

/-- In an object without repeated keys, each member is the only one with its key. -/
theorem holds_iff_mem (h : (members.map (·.1)).Nodup) {value : Json} :
    members.Holds key value ↔ (key, value) ∈ members := by
  rw [← Keyed.get?_eq_some_iff_mem h]
  refine (Once.get?_eq_some_iff ?_).symm
  have hcount := List.nodup_iff_count.mp h key
  rwa [List.count, List.countP_map, List.countP_eq_length_filter] at hcount

theorem required?_eq_some_iff {means : Json → α → Prop} {decode : Json → Option α}
    (hdecode : ∀ value a, decode value = some a ↔ means value a) (h : members.Once key) {a : α} :
    members.required? key decode = some a ↔ ∃ value, members.Holds key value ∧ means value a := by
  simp only [required?, Option.bind_eq_some_iff, h.get?_eq_some_iff, hdecode]

theorem optional?_eq_some_iff {means : Json → α → Prop} {decode : Json → Option α}
    (hdecode : ∀ value a, decode value = some a ↔ means value a) (hnull : ∀ a, ¬means .null a)
    (h : members.Once key) {x : Option α} :
    members.optional? key decode = some x ↔ Optionally means members key x := by
  constructor
  · intro hread
    unfold optional? at hread
    split at hread
    · rename_i hget
      obtain rfl := Option.some.inj hread
      exact .absent (get?_eq_none_iff.mp hget)
    · rename_i hget
      obtain rfl := Option.some.inj hread
      exact .null (h.get?_eq_some_iff.mp hget)
    · rename_i value _ hget
      obtain ⟨a, hvalue, rfl⟩ := Option.map_eq_some_iff.mp hread
      exact .given (h.get?_eq_some_iff.mp hget) ((hdecode value a).mp hvalue)
  · intro hread
    cases hread with
    | absent hlacks => rw [optional?, get?_eq_none_iff.mpr hlacks]
    | null hholds => rw [optional?, hholds.get?]
    | @given value a hholds hmeans =>
        have hnot : value ≠ .null := fun heq => hnull a (heq ▸ hmeans)
        unfold optional?
        rw [hholds.get?]
        split
        · contradiction
        · rename_i heq
          exact absurd (Option.some.inj heq) hnot
        · rename_i other _ heq
          rw [← Option.some.inj heq, (hdecode value a).mpr hmeans]
          rfl

end Members

/-- An object is a record if it repeats none of the known keys. -/
theorem record?_object_eq_some_iff {shape : Shape} {least : Nat} {members read : Members} :
    record? shape least (.object members) = some read ↔
      (∀ key ∈ shape.keys, members.Once key) ∧ members = read := by
  have hrecord : record? shape least (.object members) = fields? shape.keys (.object members) :=
    rfl
  rw [hrecord, fields?, Option.ite_none_right_eq_some, Option.some.injEq, List.all_eq_true]
  simp only [decide_eq_true_eq, Members.Once]

end Json

namespace Complaint

open Json Json.Members

/-- An offset is a whole number of 64 bits. -/
inductive Offset : Json → Nat → Prop
  | integer {n : Nat} (h : n < 2 ^ 64) : Offset (.integer n) n

/-- A place has an offset. -/
inductive Place : Json → Nat → Prop
  | object {members : Members} {value : Json} {n : Nat} (h : members.Holds "offset" value)
      (hoffset : Offset value n) : Place (.object members) n
  | list {value : Json} {n : Nat} (h : Offset value n) : Place (.array [value]) n

/-- A location has two places. -/
inductive Location : Json → Nat × Nat → Prop
  | object {members : Members} {start stop : Json} {m n : Nat}
      (hstart : members.Holds "start" start) (hstop : members.Holds "end" stop)
      (hm : Place start m) (hn : Place stop n) : Location (.object members) (m, n)
  | list {start stop : Json} {m n : Nat} (hm : Place start m) (hn : Place stop n) :
      Location (.array [start, stop]) (m, n)

/-- The shape with the offsets beside the message. The end is the start if it is not given, and
an end alone is no range. -/
structure Flat (members : Members) (c : Complaint) : Prop where
  message : members.Holds "msg" (.text c.message)
  range : ∃ start stop, Optionally Offset members "start" start ∧
    Optionally Offset members "end" stop ∧ c.range = start.map fun m => (m, stop.getD m)

/-- The shape with a location beside the message. -/
structure Located (members : Members) (c : Complaint) : Prop where
  message : members.Holds "message" (.text c.message)
  range : Optionally Location members "loc" c.range

theorem offset_iff (value : Json) (n : Nat) :
    value.asNatural? offsetLimit = some n ↔ Offset value n := by
  rw [asNatural?_eq_some_iff]
  constructor
  · rintro ⟨rfl, h⟩
    exact .integer h
  · rintro ⟨h⟩
    exact ⟨rfl, h⟩

theorem place_iff (value : Json) (n : Nat) : offsetOf? value = some n ↔ Place value n := by
  cases value with
  | object members =>
      have hkeys : (Shape.plain ["offset"]).keys = ["offset"] := rfl
      simp only [offsetOf?, Option.bind_eq_bind, Option.bind_eq_some_iff,
        record?_object_eq_some_iff, hkeys, List.mem_singleton, forall_eq]
      constructor
      · rintro ⟨_, ⟨honce, rfl⟩, h⟩
        obtain ⟨value, hvalue, hoffset⟩ := (required?_eq_some_iff offset_iff honce).mp h
        exact .object hvalue hoffset
      · rintro (⟨hvalue, hoffset⟩ | _)
        exact ⟨members, ⟨hvalue.once, rfl⟩,
          (required?_eq_some_iff offset_iff hvalue.once).mpr ⟨_, hvalue, hoffset⟩⟩
  | array items =>
      match items with
      | [] => exact ⟨nofun, nofun⟩
      | [value] =>
          have hread : offsetOf? (.array [value]) = value.asNatural? offsetLimit := rfl
          rw [hread, offset_iff]
          exact ⟨.list, fun | .list h => h⟩
      | value :: next :: items => exact ⟨nofun, nofun⟩
  | _ => exact ⟨nofun, nofun⟩

theorem location_iff (value : Json) (range : Nat × Nat) :
    rangeOf? value = some range ↔ Location value range := by
  obtain ⟨m, n⟩ := range
  cases value with
  | object members =>
      have hkeys : (Shape.plain ["start", "end"]).keys = ["start", "end"] := rfl
      simp only [rangeOf?, Option.bind_eq_bind, Option.bind_eq_some_iff,
        record?_object_eq_some_iff, hkeys, List.forall_mem_cons, Option.pure_def,
        Option.some.injEq, Prod.mk.injEq]
      constructor
      · rintro ⟨_, ⟨⟨hfirst, hsecond, -⟩, rfl⟩, m, hm, n, hn, rfl, rfl⟩
        obtain ⟨start, hstart, hm⟩ := (required?_eq_some_iff place_iff hfirst).mp hm
        obtain ⟨stop, hstop, hn⟩ := (required?_eq_some_iff place_iff hsecond).mp hn
        exact .object hstart hstop hm hn
      · rintro (⟨hstart, hstop, hm, hn⟩ | _)
        exact ⟨members, ⟨⟨hstart.once, hstop.once, by simp⟩, rfl⟩, m,
          (required?_eq_some_iff place_iff hstart.once).mpr ⟨_, hstart, hm⟩, n,
          (required?_eq_some_iff place_iff hstop.once).mpr ⟨_, hstop, hn⟩, rfl, rfl⟩
  | array items =>
      match items with
      | [] => exact ⟨nofun, nofun⟩
      | [value] => exact ⟨nofun, nofun⟩
      | [start, stop] =>
          have hread : rangeOf? (.array [start, stop]) =
              (offsetOf? start).bind fun m => (offsetOf? stop).bind fun n => some (m, n) := rfl
          simp only [hread, Option.bind_eq_some_iff, place_iff, Option.some.injEq, Prod.mk.injEq]
          constructor
          · rintro ⟨m, hm, n, hn, rfl, rfl⟩
            exact .list hm hn
          · rintro (_ | ⟨hm, hn⟩)
            exact ⟨m, hm, n, hn, rfl, rfl⟩
      | start :: stop :: next :: items => exact ⟨nofun, nofun⟩
  | _ => exact ⟨nofun, nofun⟩

theorem not_offset_null (n : Nat) : ¬Offset .null n := nofun

theorem not_location_null (range : Nat × Nat) : ¬Location .null range := nofun

theorem ofFlat?_object_iff {members : Members} {c : Complaint} :
    ofFlat? (.object members) = some c ↔ Flat members c := by
  have hkeys : (Shape.plain ["msg", "start", "end"]).keys = ["msg", "start", "end"] := rfl
  simp only [ofFlat?, Option.bind_eq_bind, Option.bind_eq_some_iff,
    record?_object_eq_some_iff, hkeys, List.forall_mem_cons, Option.pure_def, Option.some.injEq]
  constructor
  · rintro ⟨_, ⟨⟨honce, hfirst, hsecond, -⟩, rfl⟩, _, hmessage, start, hstart, stop, hstop, rfl⟩
    obtain ⟨_, hholds, rfl⟩ := (required?_eq_some_iff asText?_eq_some_iff honce).mp hmessage
    exact ⟨hholds, start, stop,
      (optional?_eq_some_iff offset_iff not_offset_null hfirst).mp hstart,
      (optional?_eq_some_iff offset_iff not_offset_null hsecond).mp hstop, rfl⟩
  · rintro ⟨hmessage, start, stop, hstart, hstop, hrange⟩
    refine ⟨members, ⟨⟨hmessage.once, hstart.once, hstop.once, by simp⟩, rfl⟩, c.message,
      (required?_eq_some_iff asText?_eq_some_iff hmessage.once).mpr ⟨_, hmessage, rfl⟩, start,
      (optional?_eq_some_iff offset_iff not_offset_null hstart.once).mpr hstart, stop,
      (optional?_eq_some_iff offset_iff not_offset_null hstop.once).mpr hstop, ?_⟩
    rw [← hrange]

theorem ofLocated?_object_iff {members : Members} {c : Complaint} :
    ofLocated? (.object members) = some c ↔ Located members c := by
  have hkeys : (Shape.plain ["message", "loc"]).keys = ["message", "loc"] := rfl
  simp only [ofLocated?, Option.bind_eq_bind, Option.bind_eq_some_iff,
    record?_object_eq_some_iff, hkeys, List.forall_mem_cons, Option.pure_def, Option.some.injEq]
  constructor
  · rintro ⟨_, ⟨⟨hfirst, hsecond, -⟩, rfl⟩, message, hmessage, range, hrange, rfl⟩
    obtain ⟨_, hholds, rfl⟩ := (required?_eq_some_iff asText?_eq_some_iff hfirst).mp hmessage
    exact ⟨hholds, (optional?_eq_some_iff location_iff not_location_null hsecond).mp hrange⟩
  · rintro ⟨hmessage, hrange⟩
    exact ⟨members, ⟨⟨hmessage.once, hrange.once, by simp⟩, rfl⟩, c.message,
      (required?_eq_some_iff asText?_eq_some_iff hmessage.once).mpr ⟨_, hmessage, rfl⟩, c.range,
      (optional?_eq_some_iff location_iff not_location_null hrange.once).mpr hrange, rfl⟩

theorem ofJson?_object_iff {members : Members} {c : Complaint} :
    ofJson? (.object members) = some c ↔
      Flat members c ∨ (¬∃ other, Flat members other) ∧ Located members c := by
  have hread : ofJson? (.object members) =
      (ofFlat? (.object members)).orElse fun _ => ofLocated? (.object members) := rfl
  simp only [← ofFlat?_object_iff, ← ofLocated?_object_iff, hread]
  cases ofFlat? (.object members) <;> simp

/-- A bare text is the message. An object is read in the flat shape if it has it, else in the
located one, and other members, those of the other shape among them, do not count. -/
theorem ofJson?_shapes :
    (∀ s, ofJson? (.text s) = some ⟨s, none⟩) ∧
    ∀ members c, ofJson? (.object members) = some c ↔
      Flat members c ∨ (¬∃ other, Flat members other) ∧ Located members c :=
  ⟨fun _ => rfl, fun _ _ => ofJson?_object_iff⟩

/-- A complaint whose location and places are written as lists. -/
def listLocated : Members :=
  [("message", .text "m"), ("loc", .array [.array [.integer 1], .array [.integer 2]])]

/-- A complaint without a member `msg` is read although its location is no object. -/
theorem ofJson?_listLocated :
    (listLocated.map (·.1)).Nodup ∧ listLocated.Lacks "msg" ∧
      listLocated.Holds "loc" (.array [.array [.integer 1], .array [.integer 2]]) ∧
      ofJson? (.object listLocated) = some ⟨"m", some (1, 2)⟩ :=
  ⟨by decide, by simp [Lacks, listLocated], rfl, rfl⟩

end Complaint
end ComponentCompiler
