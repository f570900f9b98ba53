import ComponentCompiler.Proofs.Json.Canonical
import ComponentCompiler.Proofs.Json.Reread
import ComponentCompiler.Proofs.Json.Floats
import ComponentCompiler.Proofs.Json.Members
import ComponentCompiler.Proofs.Json.Reading

/-!
# Values that are read as they were written

A value is legible if it is read back where it was written. Whatever was read is legible
(`legible_of_parse?`), and so are its items and members as far as they are of interest, and its
canonical form (`Legible.canonical`). A legible value comes back from its text, in the compact form
and in the indented one.
-/

namespace ComponentCompiler.Json

variable {shape : Shape} {bound : Nat} {value : Json}

section Integers

theorem value?_natural {n : Nat} (h : n < 2 ^ 64) :
    (Numeral.mk false (Nat.toDigits 10 n) [] none).value? = some (.integer n) := by
  unfold Numeral.value?
  rw [naturalOf_toDigits]
  exact if_pos (decide_eq_true h)

theorem value?_negative {n : Nat} (hpos : 0 < n) (h : n ≤ 2 ^ 63) :
    (Numeral.mk true (Nat.toDigits 10 n) [] none).value? = some (.integer (-n)) := by
  unfold Numeral.value?
  rw [naturalOf_toDigits]
  have hfits : (decide (0 < n) && decide (n ≤ 2 ^ 63)) = true := by
    rw [decide_eq_true hpos, decide_eq_true h]
    rfl
  exact if_pos hfits

/-- An integer that fits into 64 bits is read where it was written. -/
theorem numberFor?_integerChars {i : Int} (hlow : -2 ^ 63 ≤ i) (hhigh : i < 2 ^ 64)
    (hshape : shape.isNothing = false) :
    numberFor? shape (integerChars i) = some (.integer i, []) := by
  have hwhole := isWhole_toDigits i.natAbs
  have hread : ∀ negative, unsigned? negative (Nat.toDigits 10 i.natAbs) =
      some (⟨negative, Nat.toDigits 10 i.natAbs, [], none⟩, []) := by
    intro negative
    have hends : unsigned? negative (Nat.toDigits 10 i.natAbs ++ []) =
        some (⟨negative, Nat.toDigits 10 i.natAbs, [], none⟩, []) := unsigned?_whole hwhole ends_nil
    rwa [List.append_nil] at hends
  rw [numberFor?, integerChars]
  split
  · have hvalue := value?_negative (n := i.natAbs) (by omega) (by omega)
    have hback : -(i.natAbs : Int) = i := by omega
    rw [hback] at hvalue
    change (unsigned? true _).bind _ = _
    rw [hread, Option.bind_some]
    simp [hshape, hvalue]
  · have hvalue := value?_natural (n := i.natAbs) (by omega)
    have hback : (i.natAbs : Int) = i := by omega
    have hunsigned := numeral?_unsigned hwhole []
    rw [List.append_nil] at hunsigned
    rw [hback] at hvalue
    rw [hunsigned, hread]
    simp [hshape, hvalue]

theorem reread?_integer {i : Int} (hlow : -2 ^ 63 ≤ i) (hhigh : i < 2 ^ 64)
    (hshape : shape.isNothing = false) : reread? shape (.integer i) = some (.integer i) := by
  rw [reread?, numberFor?_integerChars hlow hhigh hshape, Option.map_some]

theorem reread?_of_value? {n : Numeral} (h : n.value? = some value)
    (hshape : shape.isNothing = false) : reread? shape value = some value := by
  unfold Numeral.value? at h
  dsimp only at h
  split at h
  · rename_i hnatural
    cases h
    simp only [Bool.and_eq_true, decide_eq_true_eq] at hnatural
    exact reread?_integer (by omega) (by omega) hshape
  · split at h
    · rename_i hnegative
      cases h
      simp only [Bool.and_eq_true, decide_eq_true_eq] at hnegative
      exact reread?_integer (by omega) (by omega) hshape
    · obtain ⟨x, hx, rfl⟩ := Option.map_eq_some_iff.mp h
      exact reread?_float (Binary64.normal_of_ofDecimal? hx) hshape

end Integers

section Lists

variable {items : List Json} {members : List (String × Json)}

/-- Items are read as each of them is. -/
theorem rereadItems?_eq_self_iff {first : Nat} : rereadItems? shape first items = some items ↔
    ∀ index item, items[index]? = some item →
      reread? (shape.item (first + index)) item = some item := by
  induction items generalizing first with
  | nil => simp [rereadItems?]
  | cons item items ih =>
    rw [rereadItems?_cons]
    constructor
    · intro h index other hother
      obtain ⟨found, hfound, h⟩ := Option.bind_eq_some_iff.mp h
      obtain ⟨rest, hrest, h⟩ := Option.bind_eq_some_iff.mp h
      obtain ⟨rfl, rfl⟩ := List.cons.inj (Option.some.inj h)
      cases index with
      | zero =>
        cases hother
        exact hfound
      | succ index =>
        have hat := ih.mp hrest index other hother
        rwa [Nat.add_right_comm] at hat
    · intro h
      have hhead : reread? (shape.item first) item = some item := h 0 item rfl
      have htail : rereadItems? shape (first + 1) items = some items := by
        refine ih.mpr fun index other hother => ?_
        have hat := h (index + 1) other hother
        rwa [Nat.add_right_comm]
      rw [hhead, htail]
      rfl

theorem rereadMembers?_eq_self_iff (hshape : shape.isNothing = false) :
    rereadMembers? shape members = some members ↔
      ∀ member ∈ members, reread? (shape.member member.1) member.2 = some member.2 := by
  refine ⟨fun h => ?_, rereadMembers?_of_forall hshape⟩
  induction members with
  | nil => exact nofun
  | cons member members ih =>
    obtain ⟨key, value⟩ := member
    have hkey : keyFor shape key = key := by simp [keyFor, hshape]
    rw [rereadMembers?_cons, hkey] at h
    obtain ⟨found, hfound, h⟩ := Option.bind_eq_some_iff.mp h
    obtain ⟨rest, hrest, h⟩ := Option.bind_eq_some_iff.mp h
    cases h
    exact List.forall_mem_cons.mpr ⟨hfound, ih hrest⟩

theorem reread?_array_iff (hshape : shape.isNothing = false) :
    reread? shape (.array items) = some (.array items) ↔
      ∀ index item, items[index]? = some item → reread? (shape.item index) item = some item := by
  have hitems := @rereadItems?_eq_self_iff shape items 0
  simp only [Nat.zero_add] at hitems
  rw [← hitems, reread?]
  simp [keptFor, hshape]

theorem reread?_object_iff (hshape : shape.isNothing = false) :
    reread? shape (.object members) = some (.object members) ↔
      ∀ member ∈ members, reread? (shape.member member.1) member.2 = some member.2 := by
  rw [← rereadMembers?_eq_self_iff hshape, reread?]
  simp [keptFor, hshape]

theorem inherited_reread : Inherited fun shape value => reread? shape value = some value where
  null _ := rfl
  bool shape b hshape := by simp [reread?, keptFor, hshape]
  text shape s hshape := by simp [reread?, keptFor, hshape]
  number _ _ _ hshape h := reread?_of_value? h hshape
  array _ _ hshape h := (reread?_array_iff hshape).mpr h
  object _ _ hshape h := (reread?_object_iff hshape).mpr h

end Lists

section Legible

/-- A value, as far as it is of interest, is read back as it is from where it was written, and it is
not nested too deeply. -/
structure Legible (shape : Shape) (bound : Nat) (value : Json) : Prop where
  read : reread? shape value = some value
  shallow : value.depth ≤ bound

/-- Whatever is read is legible. -/
theorem legible_of_parse? {document : String} (h : parse? shape document = some value) :
    Legible shape depthLimit value :=
  ⟨inherited_reread.of_parse? h, depth_le_of_parse? h⟩

variable {items : List Json} {members : List (String × Json)}

theorem legible_array_iff (hshape : shape.isNothing = false) :
    Legible shape (bound + 1) (.array items) ↔
      ∀ index item, items[index]? = some item → Legible (shape.item index) bound item := by
  constructor
  · intro h index item hitem
    refine ⟨(reread?_array_iff hshape).mp h.read index item hitem, ?_⟩
    have hdepth : depthItems items ≤ bound := Nat.le_of_succ_le_succ h.shallow
    exact depthItems_le_iff.mp hdepth item (List.mem_of_getElem? hitem)
  · intro h
    refine ⟨(reread?_array_iff hshape).mpr fun index item hitem => (h index item hitem).read, ?_⟩
    refine Nat.succ_le_succ (depthItems_le_iff.mpr fun item hitem => ?_)
    obtain ⟨index, hindex⟩ := List.mem_iff_getElem?.mp hitem
    exact (h index item hindex).shallow

theorem legible_object_iff (hshape : shape.isNothing = false) :
    Legible shape (bound + 1) (.object members) ↔
      ∀ member ∈ members, Legible (shape.member member.1) bound member.2 := by
  constructor
  · intro h member hmember
    refine ⟨(reread?_object_iff hshape).mp h.read member hmember, ?_⟩
    have hdepth : depthMembers members ≤ bound := Nat.le_of_succ_le_succ h.shallow
    exact depthMembers_le_iff.mp hdepth member hmember
  · intro h
    refine ⟨(reread?_object_iff hshape).mpr fun member hmember => (h member hmember).read, ?_⟩
    exact Nat.succ_le_succ (depthMembers_le_iff.mpr fun member hmember =>
      (h member hmember).shallow)

/-- The canonical form of a value is legible if the value is. -/
theorem Legible.canonical (h : Legible .whole bound value) :
    Legible .whole bound value.canonical := by
  refine ⟨?_, Nat.le_trans (depth_canonical_le value) h.shallow⟩
  have hread := h.read
  clear h
  induction value using values with
  | array items ih =>
    have hitems := (reread?_array_iff rfl).mp hread
    rw [Json.canonical, canonicalItems_eq]
    refine (reread?_array_iff rfl).mpr fun index item hitem => ?_
    rw [List.getElem?_map] at hitem
    obtain ⟨found, hfound, rfl⟩ := Option.map_eq_some_iff.mp hitem
    exact ih found (List.mem_of_getElem? hfound) (hitems index found hfound)
  | object members ih =>
    have hmembers := (reread?_object_iff rfl).mp hread
    rw [Json.canonical]
    refine (reread?_object_iff rfl).mpr fun member hmember => ?_
    obtain ⟨found, hfound, hcanonical⟩ := exists_of_mem_canonical hmember
    rw [hcanonical]
    exact ih _ hfound (hmembers _ hfound)
  | _ => exact hread

/-- A number that is read where it was written is in its normal form. -/
theorem Legible.normal {x : Binary64} (h : Legible .whole bound (.float x)) : x.Normal := by
  have hread := h.read
  rw [reread?] at hread
  obtain ⟨⟨found, rest⟩, hfound, rfl⟩ := Option.map_eq_some_iff.mp hread
  obtain ⟨⟨n, after⟩, -, hfound⟩ := Option.bind_eq_some_iff.mp hfound
  obtain ⟨value, hvalue, heq⟩ := Option.bind_eq_some_iff.mp hfound
  cases heq
  have hnormal := isNormal_of_value? hvalue
  rwa [IsNormal] at hnormal

theorem parse?_compact_of_legible (h : Legible shape depthLimit value) :
    parse? shape value.compact = some value := by
  rw [parse?_compact, h.read, Option.filter_some, if_pos (by simpa using h.shallow)]

theorem parse?_pretty_of_legible (h : Legible shape depthLimit value) :
    parse? shape value.pretty = some value := by
  rw [parse?_pretty, h.read, Option.filter_some, if_pos (by simpa using h.shallow)]

end Legible

section Records

variable {fields : List (String × Shape)} {least : Nat} {members : Members} {key : String}
  {x : Json}

/-- A value that a list has under a key stands at an index of the key. -/
theorem exists_of_get?_zip {keys : List String} {items : List Json}
    (h : Keyed.get? key (keys.zip items) = some x) :
    ∃ index : Nat, keys[index]? = some key ∧ items[index]? = some x := by
  induction keys generalizing items with
  | nil => cases h
  | cons first keys ih =>
    cases items with
    | nil => cases h
    | cons item items =>
      rw [List.zip_cons_cons, Keyed.get?_cons] at h
      split at h
      · rename_i heq
        cases h
        exact ⟨0, congrArg some heq.symm, rfl⟩
      · obtain ⟨index, hkey, hitem⟩ := ih h
        exact ⟨index + 1, hkey, hitem⟩

/-- In a record whose keys stand once, the item with the index of a key is the member. -/
theorem item_eq_member (hkeys : (fields.map (·.1)).Nodup) {index : Nat}
    (h : (fields.map (·.1))[index]? = some key) :
    (Shape.record fields).item index = (Shape.record fields).member key := by
  rw [List.getElem?_map] at h
  obtain ⟨⟨name, field⟩, hfield, rfl⟩ := Option.map_eq_some_iff.mp h
  have hget : Keyed.get? name fields = some field :=
    (Keyed.get?_eq_some_iff_mem hkeys).mpr (List.mem_of_getElem? hfield)
  simp [Shape.item, Shape.member, hfield, hget]

/-- The members of a record are legible, whether it is an object or a list. -/
theorem Legible.get? (h : Legible (.record fields) (bound + 1) value)
    (hkeys : (fields.map (·.1)).Nodup)
    (hrecord : value.record? (.record fields) least = some members)
    (hget : Keyed.get? key members = some x) :
    Legible ((Shape.record fields).member key) bound x := by
  unfold record? at hrecord
  split at hrecord
  · simp only [Option.ite_none_right_eq_some, Option.some.injEq] at hrecord
    obtain ⟨-, rfl⟩ := hrecord
    obtain ⟨index, hkey, hitem⟩ := exists_of_get?_zip hget
    rw [← item_eq_member hkeys hkey]
    exact (legible_array_iff rfl).mp h index x hitem
  · unfold fields? at hrecord
    split at hrecord
    · simp only [Option.ite_none_right_eq_some, Option.some.injEq] at hrecord
      obtain ⟨-, rfl⟩ := hrecord
      exact (legible_object_iff rfl).mp h _ (Keyed.mem_of_get? hget)
    · cases hrecord

end Records

end ComponentCompiler.Json
