import ComponentCompiler.Proofs.Json.Canonical
import ComponentCompiler.Proofs.Json.Numbers
import ComponentCompiler.Proofs.Json.Strings
import ComponentCompiler.Proofs.Text.Bytes
import Mathlib.Data.List.DropRight

/-!
# Reading what was written

A text of a value may have blanks around its items and members (`Laid`). Whichever it has, it is
read as the value, but for the numbers, which are read as their texts say (`reread?`). So texts,
keys, and the order of items and members come back as they were from the compact form
(`parse?_compact`), also from its bytes, and from the indented one (`parse?_pretty`).
-/

namespace ComponentCompiler.Json

/-- The key under which a member is read. -/
def keyFor (shape : Shape) (key : String) : String := if shape.isNothing then "" else key

mutual

/-- What is read where a value was written. -/
def reread? (shape : Shape) : Json → Option Json
  | null => some null
  | bool b => some (keptFor shape (bool b))
  | integer i => (numberFor? shape (integerChars i)).map (·.1)
  | float x => (numberFor? shape (floatChars x)).map (·.1)
  | text s => some (keptFor shape (text s))
  | array items => (rereadItems? shape 0 items).map fun items => keptFor shape (array items)
  | object members =>
    (rereadMembers? shape members).map fun members => keptFor shape (object members)

def rereadItems? (shape : Shape) (index : Nat) : List Json → Option (List Json)
  | [] => some []
  | item :: rest => do
    let item ← reread? (shape.item index) item
    let rest ← rereadItems? shape (index + 1) rest
    return item :: rest

def rereadMembers? (shape : Shape) : List (String × Json) → Option (List (String × Json))
  | [] => some []
  | (key, value) :: rest => do
    let value ← reread? (shape.member (keyFor shape key)) value
    let rest ← rereadMembers? shape rest
    return (keyFor shape key, value) :: rest

end

theorem rereadItems?_cons (shape : Shape) (index : Nat) (item : Json) (rest : List Json) :
    rereadItems? shape index (item :: rest) = (reread? (shape.item index) item).bind fun item =>
      (rereadItems? shape (index + 1) rest).bind fun rest => some (item :: rest) := by
  rw [rereadItems?]
  rfl

theorem rereadMembers?_cons (shape : Shape) (member : String × Json)
    (rest : List (String × Json)) :
    rereadMembers? shape (member :: rest) =
      (reread? (shape.member (keyFor shape member.1)) member.2).bind fun value =>
        (rereadMembers? shape rest).bind fun rest =>
          some ((keyFor shape member.1, value) :: rest) := by
  rw [rereadMembers?]
  rfl

/-- Members that are of interest keep their keys and their order. -/
theorem keys_rereadMembers? {shape : Shape} (hshape : shape.isNothing = false)
    {members found : List (String × Json)} (h : rereadMembers? shape members = some found) :
    found.map (·.1) = members.map (·.1) := by
  induction members generalizing found with
  | nil =>
    rw [rereadMembers?] at h
    cases h
    rfl
  | cons member members ih =>
    rw [rereadMembers?_cons] at h
    obtain ⟨value, -, h⟩ := Option.bind_eq_some_iff.mp h
    obtain ⟨rest, hrest, h⟩ := Option.bind_eq_some_iff.mp h
    cases h
    simp [ih hrest, keyFor, hshape]

section Blanks

variable {shape : Shape} {fuel : Nat} {c : Char} {blanks s t : List Char}

theorem skipSpace_append (h : ∀ c ∈ blanks, isSpace c) (s : List Char) :
    skipSpace (blanks ++ s) = skipSpace s := List.dropWhile_append_of_pos h

theorem skipSpace_cons (h : isSpace c = false) (s : List Char) : skipSpace (c :: s) = c :: s := by
  simp [skipSpace, h]

theorem skipSpace_skipSpace (s : List Char) : skipSpace (skipSpace s) = skipSpace s :=
  List.dropWhile_idempotent _ s

/-- Blanks before a value do not count. -/
theorem value?_congr (h : skipSpace s = skipSpace t) :
    value? fuel shape s = value? fuel shape t := by
  cases fuel with
  | zero => rfl
  | succ fuel => rw [value?, value?, h]

theorem items?_congr (h : skipSpace s = skipSpace t) (index : Nat) :
    items? fuel shape index s = items? fuel shape index t := by
  cases fuel with
  | zero => rfl
  | succ fuel => rw [items?, items?, value?_congr h]

theorem members?_congr (h : skipSpace s = skipSpace t) :
    members? fuel shape s = members? fuel shape t := by
  cases fuel with
  | zero => rfl
  | succ fuel => rw [members?, members?, h]

end Blanks

section Numbers

variable {shape : Shape} {fuel : Nat} {s t : List Char}

theorem isSpace_of_number {c : Char} (h : isDigit c ∨ c = '-') : isSpace c = false := by
  rcases h with h | rfl
  · rw [← Bool.not_eq_true]
    intro hspace
    simp only [isSpace, Bool.or_eq_true, beq_iff_eq] at hspace
    rcases hspace with ((rfl | rfl) | rfl) | rfl <;> cases h
  · rfl

/-- What starts with a digit or a sign is read as a number. -/
theorem value?_of_number {c : Char} (h : isDigit c ∨ c = '-') (t : List Char) :
    value? (fuel + 1) shape (c :: t) = numberFor? shape (c :: t) := by
  have hne : ∀ d, isDigit d = false → d ≠ '-' → c ≠ d := by
    rintro d hd hsign rfl
    rcases h with h | h
    · rw [hd] at h
      cases h
    · exact hsign h
  rw [value?, skipSpace_cons (isSpace_of_number h)]
  split <;> rename_i heq
  all_goals first
    | rfl
    | exact absurd (List.cons.inj heq).1 (hne _ rfl (by decide))

/-- A number that was written is read as its text says, whatever follows. -/
theorem value?_number (hs : ∃ n, ∀ rest, Ends rest → numeral? (s ++ rest) = some (n, rest))
    (hlead : ∃ c t, s = c :: t ∧ (isDigit c ∨ c = '-')) {rest : List Char} (hrest : Ends rest) :
    value? (fuel + 1) shape (s ++ rest) =
      ((numberFor? shape s).map (·.1)).map (·, rest) := by
  obtain ⟨n, hn⟩ := hs
  obtain ⟨c, t, rfl, hc⟩ := hlead
  have hself := hn [] ends_nil
  rw [List.append_nil] at hself
  have hread := hn rest hrest
  rw [List.cons_append] at hread ⊢
  rw [value?_of_number hc, numberFor?, hread, numberFor?, hself]
  cases hshape : shape.isNothing with
  | true => simp
  | false => cases hvalue : n.value? <;> simp [hvalue]

end Numbers

section Parts

variable {shape : Shape} {fuel : Nat} {s t : List Char} {c : Char}

theorem skipSpace_quoted (s : String) (t : List Char) :
    skipSpace (quoted s ++ t) = quoted s ++ t := by
  rw [quoted_append]
  exact skipSpace_cons (by decide) _

theorem value?_text (s : String) (rest : List Char) :
    value? (fuel + 1) shape (quoted s ++ rest) = some (keptFor shape (text s), rest) := by
  have hstring := stringFor?_quoted shape s rest
  rw [quoted_append] at hstring ⊢
  rw [value?, skipSpace_cons (by decide)]
  show (stringFor? shape ('"' :: _) >>= _) = _
  rw [hstring]
  cases hshape : shape.isNothing <;> simp [keptFor, hshape]

theorem value?_bracket_eq : value? (fuel + 1) shape ('[' :: s) =
    match skipSpace s with
    | ']' :: rest => some (keptFor shape (array []), rest)
    | rest => do
      let (items, rest) ← items? fuel shape 0 rest
      return (keptFor shape (array items), rest) := by
  rw [value?, skipSpace_cons (by decide)]
  rfl

/-- After a bracket come the items, unless it is closed at once. -/
theorem value?_bracket (h : skipSpace s = c :: t) (hc : c ≠ ']') :
    value? (fuel + 1) shape ('[' :: s) =
      (items? fuel shape 0 s).map fun found => (keptFor shape (array found.1), found.2) := by
  rw [value?_bracket_eq, items?_congr (skipSpace_skipSpace s).symm, h]
  split
  · rename_i heq
    exact absurd (List.cons.inj heq).1 hc
  · cases items? fuel shape 0 (c :: t) <;> rfl

theorem value?_brace_eq : value? (fuel + 1) shape ('{' :: s) =
    match skipSpace s with
    | '}' :: rest => some (keptFor shape (object []), rest)
    | rest => do
      let (members, rest) ← members? fuel shape rest
      return (keptFor shape (object members), rest) := by
  rw [value?, skipSpace_cons (by decide)]
  rfl

/-- After a brace come the members, unless it is closed at once. -/
theorem value?_brace (h : skipSpace s = c :: t) (hc : c ≠ '}') :
    value? (fuel + 1) shape ('{' :: s) =
      (members? fuel shape s).map fun found => (keptFor shape (object found.1), found.2) := by
  rw [value?_brace_eq, members?_congr (skipSpace_skipSpace s).symm, h]
  split
  · rename_i heq
    exact absurd (List.cons.inj heq).1 hc
  · cases members? fuel shape (c :: t) <;> rfl

theorem items?_last {index : Nat} {found : Option Json} {rest : List Char}
    (h : value? fuel (shape.item index) s = found.map (·, t)) (ht : skipSpace t = ']' :: rest) :
    items? (fuel + 1) shape index s = found.map fun item => ([item], rest) := by
  rw [items?, h]
  cases found with
  | none => rfl
  | some item => simp [ht]

theorem items?_more {index : Nat} {found : Option Json} {rest : List Char}
    (h : value? fuel (shape.item index) s = found.map (·, t)) (ht : skipSpace t = ',' :: rest) :
    items? (fuel + 1) shape index s = found.bind fun item =>
      (items? fuel shape (index + 1) rest).map fun more => (item :: more.1, more.2) := by
  rw [items?, h]
  cases found with
  | none => rfl
  | some item => cases hmore : items? fuel shape (index + 1) rest <;> simp [ht, hmore]

theorem members?_last {key : String} {found : Option Json} {rest u : List Char}
    (hs : skipSpace s = quoted key ++ ':' :: t)
    (h : value? fuel (shape.member (keyFor shape key)) t = found.map (·, u))
    (hu : skipSpace u = '}' :: rest) :
    members? (fuel + 1) shape s = found.map fun value => ([(keyFor shape key, value)], rest) := by
  rw [members?, hs, stringFor?_quoted]
  have hcolon : skipSpace (':' :: t) = ':' :: t := skipSpace_cons (by decide) t
  cases found with
  | none => simp_all [keyFor]
  | some value => simp_all [keyFor]

theorem members?_more {key : String} {found : Option Json} {rest u : List Char}
    (hs : skipSpace s = quoted key ++ ':' :: t)
    (h : value? fuel (shape.member (keyFor shape key)) t = found.map (·, u))
    (hu : skipSpace u = ',' :: rest) :
    members? (fuel + 1) shape s = found.bind fun value =>
      (members? fuel shape rest).map fun more => ((keyFor shape key, value) :: more.1, more.2) := by
  rw [members?, hs, stringFor?_quoted]
  have hcolon : skipSpace (':' :: t) = ':' :: t := skipSpace_cons (by decide) t
  cases found with
  | none => simp_all [keyFor]
  | some value => cases hmore : members? fuel shape rest <;> simp_all [keyFor]

end Parts

section Laid

/-- A text of nothing but blanks. -/
def Blanks (s : List Char) : Prop := ∀ c ∈ s, isSpace c

theorem blanks_nil : Blanks [] := nofun

theorem blanks_indent (depth : Nat) : Blanks (indent depth) := by
  intro c hc
  rw [indent, List.mem_cons, List.mem_replicate] at hc
  rcases hc with rfl | ⟨-, rfl⟩ <;> rfl

theorem Blanks.skipSpace_cons {after : List Char} (h : Blanks after) {c : Char}
    (hc : isSpace c = false) (s : List Char) : skipSpace (after ++ c :: s) = c :: s := by
  rw [skipSpace_append h]
  exact Json.skipSpace_cons hc s

theorem Blanks.ends {after s : List Char} (h : Blanks after) (hs : Ends s) : Ends (after ++ s) := by
  cases after with
  | nil => exact hs
  | cons c after =>
    refine ends_cons ?_
    have hc := h c List.mem_cons_self
    simp only [isSpace, Bool.or_eq_true, beq_iff_eq] at hc
    rcases hc with ((rfl | rfl) | rfl) | rfl <;> decide

mutual

/-- A text of a value, with blanks wherever one may put them around its items and members. -/
inductive Laid : Json → List Char → Prop
  | null : Laid .null "null".toList
  | bool (b : Bool) : Laid (.bool b) (boolChars b)
  | integer (i : Int) : Laid (.integer i) (integerChars i)
  | float (x : Binary64) : Laid (.float x) (floatChars x)
  | text (s : String) : Laid (.text s) (quoted s)
  | noItems : Laid (.array []) ['[', ']']
  | items {items : List Json} {s : List Char} (h : LaidItems items s) :
    Laid (.array items) ('[' :: (s ++ [']']))
  | noMembers : Laid (.object []) ['{', '}']
  | members {members : List (String × Json)} {s : List Char} (h : LaidMembers members s) :
    Laid (.object members) ('{' :: (s ++ ['}']))

/-- A text of items with commas between them. -/
inductive LaidItems : List Json → List Char → Prop
  | last {before s after : List Char} {item : Json} (hbefore : Blanks before) (h : Laid item s)
      (hafter : Blanks after) : LaidItems [item] (before ++ (s ++ after))
  | more {before s after t : List Char} {item : Json} {items : List Json}
      (hbefore : Blanks before) (h : Laid item s) (hafter : Blanks after)
      (hitems : LaidItems items t) :
    LaidItems (item :: items) (before ++ (s ++ (after ++ ',' :: t)))

/-- A text of members with commas between them. -/
inductive LaidMembers : List (String × Json) → List Char → Prop
  | last {before gap s after : List Char} {key : String} {value : Json}
      (hbefore : Blanks before) (hgap : Blanks gap) (h : Laid value s) (hafter : Blanks after) :
    LaidMembers [(key, value)] (before ++ (quoted key ++ ':' :: (gap ++ (s ++ after))))
  | more {before gap s after t : List Char} {key : String} {value : Json}
      {members : List (String × Json)} (hbefore : Blanks before) (hgap : Blanks gap)
      (h : Laid value s) (hafter : Blanks after) (hmembers : LaidMembers members t) :
    LaidMembers ((key, value) :: members)
      (before ++ (quoted key ++ ':' :: (gap ++ (s ++ (after ++ ',' :: t)))))

end

variable {s : List Char}

/-- A text of a value starts with a character that is no blank and closes nothing. -/
theorem Laid.lead {j : Json} (h : Laid j s) :
    ∃ c t, s = c :: t ∧ isSpace c = false ∧ c ≠ ']' ∧ c ≠ '}' := by
  have hnumber : ∀ {s : List Char}, (∃ c t, s = c :: t ∧ (isDigit c ∨ c = '-')) →
      ∃ c t, s = c :: t ∧ isSpace c = false ∧ c ≠ ']' ∧ c ≠ '}' := by
    rintro s ⟨c, t, rfl, hc⟩
    refine ⟨c, t, rfl, isSpace_of_number hc, ?_, ?_⟩ <;> rintro rfl <;> revert hc <;> decide
  cases h with
  | null => exact ⟨'n', _, rfl, rfl, by decide, by decide⟩
  | bool b => cases b <;> exact ⟨_, _, rfl, rfl, by decide, by decide⟩
  | integer i => exact hnumber (lead_integerChars i)
  | float x => exact hnumber (lead_floatChars x)
  | text s => exact ⟨'"', _, rfl, rfl, by decide, by decide⟩
  | noItems | items => exact ⟨'[', _, rfl, rfl, by decide, by decide⟩
  | noMembers | members => exact ⟨'{', _, rfl, rfl, by decide, by decide⟩

theorem LaidItems.lead {items : List Json} (h : LaidItems items s) (rest : List Char) :
    ∃ c t, skipSpace (s ++ rest) = c :: t ∧ c ≠ ']' := by
  have hitem : ∀ {before s : List Char} {item : Json}, Blanks before → Laid item s → ∀ t,
      ∃ c u, skipSpace (before ++ (s ++ t)) = c :: u ∧ c ≠ ']' := by
    intro before s item hbefore h t
    obtain ⟨c, u, rfl, hspace, hclose, -⟩ := h.lead
    rw [List.cons_append]
    exact ⟨c, u ++ t, hbefore.skipSpace_cons hspace _, hclose⟩
  cases h with
  | last hbefore h _ =>
    rw [List.append_assoc, List.append_assoc]
    exact hitem hbefore h _
  | more hbefore h _ _ =>
    rw [List.append_assoc, List.append_assoc]
    exact hitem hbefore h _

theorem LaidMembers.lead {members : List (String × Json)} (h : LaidMembers members s)
    (rest : List Char) : ∃ t, skipSpace (s ++ rest) = '"' :: t := by
  have hkey : ∀ {before : List Char}, Blanks before → ∀ (key : String) (t : List Char),
      ∃ u, skipSpace (before ++ (quoted key ++ t)) = '"' :: u := by
    intro before hbefore key t
    rw [skipSpace_append hbefore, skipSpace_quoted, quoted_append]
    exact ⟨_, rfl⟩
  cases h with
  | last hbefore _ _ _ =>
    rw [List.append_assoc, List.append_assoc]
    exact hkey hbefore _ _
  | more hbefore _ _ _ _ =>
    rw [List.append_assoc, List.append_assoc]
    exact hkey hbefore _ _

mutual

/-- A text of a value is read as `reread?` says, before anything that ends a number. -/
theorem Laid.value?_eq {j : Json} {s : List Char} (h : Laid j s) (shape : Shape) (fuel : Nat)
    (rest : List Char) (hfuel : s.length ≤ fuel) (hrest : Ends rest) :
    value? fuel shape (s ++ rest) = (reread? shape j).map (·, rest) := by
  have hpos : 0 < s.length := by
    obtain ⟨c, t, rfl, -⟩ := h.lead
    exact Nat.succ_pos _
  obtain ⟨fuel, rfl⟩ : ∃ n, fuel = n + 1 := Nat.exists_eq_add_one_of_ne_zero (by omega)
  cases h with
  | null => rfl
  | bool b => cases b <;> rfl
  | integer i => exact value?_number (numeral?_integerChars i) (lead_integerChars i) hrest
  | float x => exact value?_number (numeral?_floatChars x) (lead_floatChars x) hrest
  | text s => exact value?_text s rest
  | noItems => rfl
  | noMembers => rfl
  | @items items s hitems =>
    rw [List.length_cons, List.length_append, List.length_singleton] at hfuel
    rw [List.cons_append, List.append_assoc, List.singleton_append]
    obtain ⟨c, t, hlead, hclose⟩ := hitems.lead (']' :: rest)
    rw [value?_bracket hlead hclose, hitems.items?_eq shape fuel 0 rest (by omega), reread?]
    cases rereadItems? shape 0 items <;> rfl
  | @members members s hmembers =>
    rw [List.length_cons, List.length_append, List.length_singleton] at hfuel
    rw [List.cons_append, List.append_assoc, List.singleton_append]
    obtain ⟨t, hlead⟩ := hmembers.lead ('}' :: rest)
    rw [value?_brace hlead (by decide), hmembers.members?_eq shape fuel rest (by omega), reread?]
    cases rereadMembers? shape members <;> rfl
termination_by fuel

/-- A text of items is read up to the closing bracket. -/
theorem LaidItems.items?_eq {items : List Json} {s : List Char} (h : LaidItems items s)
    (shape : Shape) (fuel index : Nat) (rest : List Char) (hfuel : s.length < fuel) :
    items? fuel shape index (s ++ ']' :: rest) =
      (rereadItems? shape index items).map (·, rest) := by
  obtain ⟨fuel, rfl⟩ : ∃ n, fuel = n + 1 := Nat.exists_eq_add_one_of_ne_zero (by omega)
  cases h with
  | @last before s after item hbefore h hafter =>
    rw [List.length_append, List.length_append] at hfuel
    have hvalue := h.value?_eq (shape.item index) fuel (after ++ ']' :: rest) (by omega)
      (hafter.ends (ends_cons (by decide)))
    rw [List.append_assoc, List.append_assoc, items?_congr (skipSpace_append hbefore _),
      items?_last hvalue (hafter.skipSpace_cons (by decide) rest), rereadItems?_cons]
    cases reread? (shape.item index) item <;> rfl
  | @more before s after t item items hbefore h hafter hitems =>
    rw [List.length_append, List.length_append, List.length_append, List.length_cons] at hfuel
    have hvalue := h.value?_eq (shape.item index) fuel (after ++ ',' :: (t ++ ']' :: rest))
      (by omega) (hafter.ends (ends_cons (by decide)))
    rw [List.append_assoc, List.append_assoc, List.append_assoc, List.cons_append,
      items?_congr (skipSpace_append hbefore _),
      items?_more hvalue (hafter.skipSpace_cons (by decide) _),
      hitems.items?_eq shape fuel (index + 1) rest (by omega), rereadItems?_cons]
    cases reread? (shape.item index) item with
    | none => rfl
    | some item => cases rereadItems? shape (index + 1) items <;> rfl
termination_by fuel

/-- A text of members is read up to the closing brace. -/
theorem LaidMembers.members?_eq {members : List (String × Json)} {s : List Char}
    (h : LaidMembers members s) (shape : Shape) (fuel : Nat) (rest : List Char)
    (hfuel : s.length < fuel) :
    members? fuel shape (s ++ '}' :: rest) =
      (rereadMembers? shape members).map (·, rest) := by
  obtain ⟨fuel, rfl⟩ : ∃ n, fuel = n + 1 := Nat.exists_eq_add_one_of_ne_zero (by omega)
  cases h with
  | @last before gap s after key value hbefore hgap h hafter =>
    rw [List.length_append, List.length_append, List.length_cons, List.length_append,
      List.length_append] at hfuel
    have hvalue := h.value?_eq (shape.member (keyFor shape key)) fuel (after ++ '}' :: rest)
      (by omega) (hafter.ends (ends_cons (by decide)))
    rw [← value?_congr (skipSpace_append hgap _)] at hvalue
    rw [List.append_assoc, List.append_assoc, List.cons_append, List.append_assoc,
      List.append_assoc, members?_congr (skipSpace_append hbefore _),
      members?_last (skipSpace_quoted _ _) hvalue (hafter.skipSpace_cons (by decide) rest),
      rereadMembers?_cons]
    cases reread? (shape.member (keyFor shape key)) value <;> rfl
  | @more before gap s after t key value members hbefore hgap h hafter hmembers =>
    rw [List.length_append, List.length_append, List.length_cons, List.length_append,
      List.length_append, List.length_append, List.length_cons] at hfuel
    have hvalue := h.value?_eq (shape.member (keyFor shape key)) fuel
      (after ++ ',' :: (t ++ '}' :: rest)) (by omega) (hafter.ends (ends_cons (by decide)))
    rw [← value?_congr (skipSpace_append hgap _)] at hvalue
    rw [List.append_assoc, List.append_assoc, List.cons_append, List.append_assoc,
      List.append_assoc, List.append_assoc, List.cons_append,
      members?_congr (skipSpace_append hbefore _),
      members?_more (skipSpace_quoted _ _) hvalue (hafter.skipSpace_cons (by decide) _),
      hmembers.members?_eq shape fuel rest (by omega), rereadMembers?_cons]
    cases reread? (shape.member (keyFor shape key)) value with
    | none => rfl
    | some value => cases rereadMembers? shape members <;> rfl
termination_by fuel

end

/-- A text of a value is read as `reread?` says, unless that is nested too deeply. -/
theorem Laid.ofChars?_eq {j : Json} (h : Laid j s) (shape : Shape) :
    ofChars? shape s = (reread? shape j).filter fun found => found.depth ≤ depthLimit := by
  have hread := h.value?_eq shape (s.length + 1) [] (Nat.le_succ _) ends_nil
  rw [List.append_nil] at hread
  rw [ofChars?, hread]
  cases reread? shape j with
  | none => rfl
  | some found =>
    simp only [Option.bind_eq_bind, Option.map_some, Option.bind_some, skipSpace,
      List.dropWhile_nil, List.isEmpty_nil, Bool.true_and, Option.filter_some, Option.pure_def]

end Laid

section Indented

variable {depth : Nat} {after : List Char}

theorem laidItems_prettyItems {item : Json} {items : List Json}
    (h : ∀ other ∈ item :: items, Laid other (prettyChars depth other)) (hafter : Blanks after) :
    LaidItems (item :: items) (prettyItems depth (item :: items) ++ after) := by
  induction items generalizing item with
  | nil =>
    rw [prettyItems, List.append_assoc]
    exact .last (blanks_indent depth) (h item List.mem_cons_self) hafter
  | cons next items ih =>
    rw [prettyItems, List.append_assoc, List.append_assoc, List.cons_append]
    exact .more (blanks_indent depth) (h item List.mem_cons_self) blanks_nil
      (ih fun other hother => h other (List.mem_cons_of_mem _ hother))

theorem laidMembers_prettyMembers {member : String × Json} {members : List (String × Json)}
    (h : ∀ other ∈ member :: members, Laid other.2 (prettyChars depth other.2))
    (hafter : Blanks after) :
    LaidMembers (member :: members) (prettyMembers depth (member :: members) ++ after) := by
  have hgap : Blanks [' '] := List.forall_mem_singleton.mpr rfl
  induction members generalizing member with
  | nil =>
    rw [prettyMembers, List.append_assoc, List.append_assoc]
    exact .last (blanks_indent depth) hgap (h member List.mem_cons_self) hafter
  | cons next members ih =>
    rw [prettyMembers, List.append_assoc, List.append_assoc, List.append_assoc]
    exact .more (blanks_indent depth) hgap (h member List.mem_cons_self) blanks_nil
      (ih fun other hother => h other (List.mem_cons_of_mem _ hother))

theorem laid_prettyChars (j : Json) (depth : Nat) : Laid j (prettyChars depth j) := by
  induction j using values generalizing depth with
  | null => exact .null
  | bool b => exact .bool b
  | integer i => exact .integer i
  | float x => exact .float x
  | text s => exact .text s
  | array items ih =>
    cases items with
    | nil => exact .noItems
    | cons item items =>
      rw [prettyChars, List.cons_append, List.cons_append]
      exact .items (laidItems_prettyItems (fun other hother => ih other hother _)
        (blanks_indent depth))
  | object members ih =>
    cases members with
    | nil => exact .noMembers
    | cons member members =>
      rw [prettyChars, List.cons_append, List.cons_append]
      exact .members (laidMembers_prettyMembers (fun other hother => ih other hother _)
        (blanks_indent depth))

/-- The indented form of a value is read as `reread?` says, unless it is nested too deeply. -/
theorem parse?_pretty (shape : Shape) (j : Json) :
    parse? shape j.pretty = (reread? shape j).filter fun found => found.depth ≤ depthLimit := by
  rw [parse?, pretty, String.toList_ofList]
  exact (laid_prettyChars j 0).ofChars?_eq shape

end Indented

section Compact

theorem laidItems_itemChars {item : Json} {items : List Json}
    (h : ∀ other ∈ item :: items, Laid other (chars other)) :
    LaidItems (item :: items) (itemChars (item :: items)) := by
  induction items generalizing item with
  | nil =>
    have hlast := LaidItems.last blanks_nil (h item List.mem_cons_self) blanks_nil
    rwa [List.append_nil] at hlast
  | cons next items ih =>
    exact .more blanks_nil (h item List.mem_cons_self) blanks_nil
      (ih fun other hother => h other (List.mem_cons_of_mem _ hother))

theorem laidMembers_memberChars {member : String × Json} {members : List (String × Json)}
    (h : ∀ other ∈ member :: members, Laid other.2 (chars other.2)) :
    LaidMembers (member :: members) (memberChars (member :: members)) := by
  induction members generalizing member with
  | nil =>
    have hlast : LaidMembers [(member.1, member.2)] _ :=
      .last blanks_nil blanks_nil (h member List.mem_cons_self) blanks_nil
    rwa [List.append_nil] at hlast
  | cons next members ih =>
    rw [memberChars, List.append_assoc]
    exact .more blanks_nil blanks_nil (h member List.mem_cons_self) blanks_nil
      (ih fun other hother => h other (List.mem_cons_of_mem _ hother))

theorem laid_chars (j : Json) : Laid j (chars j) := by
  induction j using values with
  | null => exact .null
  | bool b => exact .bool b
  | integer i => exact .integer i
  | float x => exact .float x
  | text s => exact .text s
  | array items ih =>
    cases items with
    | nil => exact .noItems
    | cons item items => exact .items (laidItems_itemChars ih)
  | object members ih =>
    cases members with
    | nil => exact .noMembers
    | cons member members => exact .members (laidMembers_memberChars ih)

/-- The compact form of a value is read as `reread?` says, unless it is nested too deeply. -/
theorem parse?_compact (shape : Shape) (j : Json) :
    parse? shape j.compact = (reread? shape j).filter fun found => found.depth ≤ depthLimit := by
  rw [parse?, compact, String.toList_ofList]
  exact (laid_chars j).ofChars?_eq shape

end Compact

section Whole

/-- Items of a value that is of interest as a whole are read as each of them is. -/
theorem rereadItems?_whole {items : List Json} (h : ∀ item ∈ items, reread? .whole item = some item)
    (index : Nat) : rereadItems? .whole index items = some items := by
  induction items generalizing index with
  | nil => rfl
  | cons item items ih =>
      rw [rereadItems?_cons, show Shape.whole.item index = .whole from rfl,
        h item List.mem_cons_self, ih fun item hitem => h item (List.mem_cons_of_mem _ hitem)]
      rfl

theorem reread?_whole_array {items : List Json}
    (h : ∀ item ∈ items, reread? .whole item = some item) :
    reread? .whole (.array items) = some (.array items) := by
  rw [reread?, rereadItems?_whole h]
  rfl

/-- Members are read as each of them is. -/
theorem rereadMembers?_of_forall {shape : Shape} (hshape : shape.isNothing = false)
    {members : List (String × Json)}
    (h : ∀ member ∈ members, reread? (shape.member member.1) member.2 = some member.2) :
    rereadMembers? shape members = some members := by
  induction members with
  | nil => rfl
  | cons member members ih =>
      have hkey : keyFor shape member.1 = member.1 := by simp [keyFor, hshape]
      rw [rereadMembers?_cons, hkey, h member List.mem_cons_self,
        ih fun member hmember => h member (List.mem_cons_of_mem _ hmember)]
      rfl

end Whole

section Bytes

/-- The bytes of a text are read as the text. -/
theorem ofBytes?_toUTF8 (shape : Shape) (s : String) :
    ofBytes? shape s.toUTF8.toList = parse? shape s := by
  have htext : String.fromUTF8? s.toUTF8 = some s := dif_pos s.isValidUTF8
  rw [ofBytes?, Text.toArray_toList, htext]

end Bytes

end ComponentCompiler.Json
