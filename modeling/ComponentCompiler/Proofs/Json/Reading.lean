import ComponentCompiler.Json.Parser

/-!
# What holds of every value that is read

A reader takes values apart as they are nested. So what holds of the values that a document may have
at its leaves, and of every array and object in which it holds of the parts, holds of whatever is
read (`of_parse?`). What is of no interest has been read as null.
-/

namespace ComponentCompiler.Json

variable {P : Shape → Json → Prop} {shape : Shape} {s rest : List Char} {value : Json}

/-- A property of values, as far as they are of interest, that follows from the same property of
their parts. -/
structure Inherited (P : Shape → Json → Prop) : Prop where
  null (shape : Shape) : P shape .null
  bool (shape : Shape) (b : Bool) : shape.isNothing = false → P shape (.bool b)
  text (shape : Shape) (s : String) : shape.isNothing = false → P shape (.text s)
  number (shape : Shape) (n : Numeral) (value : Json) :
    shape.isNothing = false → n.value? = some value → P shape value
  array (shape : Shape) (items : List Json) : shape.isNothing = false →
    (∀ index item, items[index]? = some item → P (shape.item index) item) → P shape (.array items)
  object (shape : Shape) (members : List (String × Json)) : shape.isNothing = false →
    (∀ member ∈ members, P (shape.member member.1) member.2) → P shape (.object members)

theorem of_word? {word : List Char} {found : Json} (hfound : P shape found)
    (hread : word? word found s = some (value, rest)) : P shape value := by
  rw [word?] at hread
  split at hread
  · cases hread
    exact hfound
  · cases hread

namespace Inherited

/-- What is of no interest is null. -/
theorem kept (h : Inherited P) (hvalue : shape.isNothing = false → P shape value) :
    P shape (keptFor shape value) := by
  rw [keptFor]
  cases hshape : shape.isNothing with
  | true => exact h.null shape
  | false => exact hvalue hshape

theorem of_numberFor? (h : Inherited P) (hread : numberFor? shape s = some (value, rest)) :
    P shape value := by
  obtain ⟨⟨n, after⟩, -, hread⟩ := Option.bind_eq_some_iff.mp hread
  dsimp only at hread
  split at hread
  · cases hread
    exact h.null shape
  · rename_i hshape
    obtain ⟨found, hfound, hread⟩ := Option.bind_eq_some_iff.mp hread
    cases hread
    exact h.number shape n value (by simpa using hshape) hfound

/-- A value that is read has the property if the parts that are read with the same fuel have it. -/
theorem of_value?_succ (h : Inherited P) {fuel : Nat}
    (hitems : ∀ shape s items rest, items? fuel shape 0 s = some (items, rest) →
      ∀ index item, items[index]? = some item → P (shape.item index) item)
    (hmembers : ∀ shape s members rest, members? fuel shape s = some (members, rest) →
      ∀ member ∈ members, P (shape.member member.1) member.2)
    (hread : value? (fuel + 1) shape s = some (value, rest)) : P shape value := by
  unfold value? at hread
  split at hread
  · split at hread
    · cases hread
      exact h.kept fun hshape => h.object shape [] hshape nofun
    · obtain ⟨⟨members, after⟩, hmore, hread⟩ := Option.bind_eq_some_iff.mp hread
      cases hread
      exact h.kept fun hshape => h.object shape members hshape (hmembers _ _ _ _ hmore)
  · split at hread
    · cases hread
      exact h.kept fun hshape => h.array shape [] hshape nofun
    · obtain ⟨⟨items, after⟩, hmore, hread⟩ := Option.bind_eq_some_iff.mp hread
      cases hread
      exact h.kept fun hshape => h.array shape items hshape (hitems _ _ _ _ hmore)
  · obtain ⟨⟨text, after⟩, -, hread⟩ := Option.bind_eq_some_iff.mp hread
    cases hread
    exact h.kept fun hshape => h.text shape text hshape
  · exact of_word? (h.kept fun hshape => h.bool shape true hshape) hread
  · exact of_word? (h.kept fun hshape => h.bool shape false hshape) hread
  · exact of_word? (h.null shape) hread
  · exact h.of_numberFor? hread

/-- The property holds of the items of a list from an index on. -/
theorem of_items_cons {first : Nat} {item : Json} {items : List Json}
    (hitem : P (shape.item first) item) (hitems : ∀ index other, items[index]? = some other →
      P (shape.item (first + 1 + index)) other) :
    ∀ index other, (item :: items)[index]? = some other →
      P (shape.item (first + index)) other := by
  intro index other hother
  cases index with
  | zero =>
    cases hother
    exact hitem
  | succ index =>
    have hat := hitems index other hother
    rwa [Nat.add_right_comm] at hat

/-- The property holds of every value, of the items of every list from an index on, and of the
members of every object. -/
theorem of_value? (h : Inherited P) (fuel : Nat) :
    (∀ shape s value rest, value? fuel shape s = some (value, rest) → P shape value) ∧
    (∀ shape first s items rest, items? fuel shape first s = some (items, rest) →
      ∀ index item, items[index]? = some item → P (shape.item (first + index)) item) ∧
    ∀ shape s members rest, members? fuel shape s = some (members, rest) →
      ∀ member ∈ members, P (shape.member member.1) member.2 := by
  induction fuel with
  | zero => exact ⟨fun _ _ _ _ h => (nomatch h), fun _ _ _ _ _ h => (nomatch h),
      fun _ _ _ _ h => (nomatch h)⟩
  | succ fuel ih =>
      obtain ⟨ihvalue, ihitems, ihmembers⟩ := ih
      refine ⟨?value, ?items, ?members⟩
      case value =>
        have hitems : ∀ shape s items rest, items? fuel shape 0 s = some (items, rest) →
            ∀ index item, items[index]? = some item → P (shape.item index) item := by
          intro shape s items rest hread index item hitem
          have hat := ihitems _ _ _ _ _ hread index item hitem
          rwa [Nat.zero_add] at hat
        exact fun _ _ _ _ => h.of_value?_succ hitems ihmembers
      case items =>
        intro shape first s items rest hread
        obtain ⟨⟨item, after⟩, hitem, hread⟩ := Option.bind_eq_some_iff.mp hread
        have hhead : P (shape.item first) item := ihvalue _ _ _ _ hitem
        dsimp only at hread
        split at hread
        · obtain ⟨⟨more, last⟩, hmore, hread⟩ := Option.bind_eq_some_iff.mp hread
          cases hread
          exact of_items_cons hhead (ihitems _ _ _ _ _ hmore)
        · cases hread
          exact of_items_cons hhead nofun
        · cases hread
      case members =>
        intro shape s members rest hread
        obtain ⟨⟨key, after⟩, -, hread⟩ := Option.bind_eq_some_iff.mp hread
        dsimp only at hread
        split at hread
        · obtain ⟨⟨value, after⟩, hvalue, hread⟩ := Option.bind_eq_some_iff.mp hread
          have hhead : P (shape.member key) value := ihvalue _ _ _ _ hvalue
          dsimp only at hread
          split at hread
          · obtain ⟨⟨more, last⟩, hmore, hread⟩ := Option.bind_eq_some_iff.mp hread
            cases hread
            exact List.forall_mem_cons.mpr ⟨hhead, ihmembers _ _ _ _ hmore⟩
          · cases hread
            exact List.forall_mem_cons.mpr ⟨hhead, nofun⟩
          · cases hread
        · cases hread

/-- The property holds of whatever is read from a document. -/
theorem of_parse? (h : Inherited P) {document : String}
    (hread : parse? shape document = some value) : P shape value := by
  obtain ⟨⟨found, rest⟩, hfound, hread⟩ := Option.bind_eq_some_iff.mp hread
  dsimp only at hread
  split at hread
  · cases hread
    exact (h.of_value? _).1 _ _ _ _ hfound
  · cases hread

end Inherited

theorem depth_le_of_parse? {document : String} (h : parse? shape document = some value) :
    value.depth ≤ depthLimit := by
  obtain ⟨⟨found, rest⟩, -, h⟩ := Option.bind_eq_some_iff.mp h
  dsimp only at h
  split at h
  · rename_i hend
    cases h
    simp only [Bool.and_eq_true, decide_eq_true_eq] at hend
    exact hend.2
  · cases h

end ComponentCompiler.Json
