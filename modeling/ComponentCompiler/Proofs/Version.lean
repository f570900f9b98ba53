import ComponentCompiler.Version.Wire
import ComponentCompiler.Proofs.Text.Lines
import Mathlib.Data.Nat.Digits.Defs
import Mathlib.Data.Prod.Lex

/-!
# The grammar of versions

What a version is read from is described without the reader: the text between the blanks
(`Text.Trims`), the parts of it before a hyphen or a plus sign (`Splits`) and the number that a
part stands for, with the value of its digits as a number in base ten (`IsNumber`). Reading
accepts exactly this grammar, keeps the text, and refuses every other text with the text between
the blanks (`parse_grammar`).
-/

namespace ComponentCompiler

namespace Text

/-- `t` is what `s` is between the blanks at its ends. -/
structure Trims (s t : List Char) : Prop where
  within : ∃ front back, s = front ++ (t ++ back) ∧ (∀ c ∈ front, isBlank c) ∧
    ∀ c ∈ back, isBlank c
  first : ∀ c, t.head? = some c → isBlank c = false
  last : ∀ c, t.getLast? = some c → isBlank c = false

theorem trims_trim (s : List Char) : Trims s (trim s) := by
  have hlast : ∀ c, (trim s).getLast? = some c → isBlank c = false := by
    intro c hc
    obtain ⟨front, hfront⟩ := List.getLast?_eq_some_iff.mp hc
    have hreverse : (dropTail isBlank (s.dropWhile isBlank)).reverse = c :: front.reverse := by
      rw [← trimEnd, ← trim, hfront, List.reverse_append, List.reverse_singleton,
        List.singleton_append]
    exact last_dropTail hreverse
  obtain ⟨back, hback, hblank⟩ := dropTail_append isBlank (s.dropWhile isBlank)
  refine ⟨⟨s.takeWhile isBlank, back, ?_, ?_, hblank⟩, ?_, hlast⟩
  · rw [trim, trimEnd, ← hback, List.takeWhile_append_dropWhile]
  · exact List.all_eq_true.mp List.all_takeWhile
  · intro c hc
    have hstart : (s.dropWhile isBlank).head? = some c := by
      rw [hback, List.head?_append, ← trimEnd, ← trim, hc, Option.some_or]
    have hhead := List.head?_dropWhile_not isBlank s
    rw [hstart] at hhead
    simpa using hhead

theorem dropWhile_of_forall {s : List Char} (h : ∀ c ∈ s, isBlank c) :
    s.dropWhile isBlank = [] := by
  rw [← List.append_nil s, List.dropWhile_append_of_pos h, List.dropWhile_nil]

/-- Only one text is what a text is between its blanks. -/
theorem trim_eq_iff {s t : List Char} : trim s = t ↔ Trims s t := by
  refine ⟨fun h => h ▸ trims_trim s, ?_⟩
  rintro ⟨⟨front, back, rfl, hfront, hback⟩, hfirst, hlast⟩
  have hstart : (t ++ back).dropWhile isBlank = t ++ back ∨ t = [] := by
    cases t with
    | nil => exact .inr rfl
    | cons c t => exact .inl (List.dropWhile_cons_of_neg (by simp [hfirst c rfl]))
  rw [trim, List.dropWhile_append_of_pos hfront]
  rcases hstart with hstart | rfl
  · rw [hstart, trimEnd, dropTail_eq_of_last hlast hback]
  · rw [List.nil_append, dropWhile_of_forall hback]
    rfl

end Text

namespace Version

/-- A run of digits with its value, below the limit of a component. -/
structure IsNumber (digits : List Char) (n : Nat) : Prop where
  nonempty : digits ≠ []
  digit : ∀ c ∈ digits, '0' ≤ c ∧ c ≤ '9'
  value : n = Nat.ofDigits 10 (digits.reverse.map fun c => c.toNat - '0'.toNat)
  below : n < 2 ^ 32

/-- What a part stands for: a part that is missing stands for zero. -/
inductive StandsFor : Option (List Char) → Nat → Prop
  | missing : StandsFor none 0
  | number {part : List Char} {n : Nat} (h : IsNumber part n) : StandsFor (some part) n

/-- `raw` is the text between the blanks, and `parts` is what the dots part of it before the first
hyphen or plus sign. -/
structure Splits (text raw : String) (parts : List (List Char)) : Prop where
  trims : Text.Trims text.toList raw.toList
  nonempty : parts ≠ []
  plain : ∀ part ∈ parts, ∀ c ∈ part, c ≠ '.' ∧ c ≠ '-' ∧ c ≠ '+'
  cut : ∃ rest, raw.toList = Text.joined ['.'] parts ++ rest ∧
    ∀ c, rest.head? = some c → c = '-' ∨ c = '+'

section Number

theorem foldl_digits (digits : List Char) :
    digits.foldl (fun n c => 10 * n + (c.toNat - 48)) 0 =
      Nat.ofDigits 10 (digits.reverse.map fun c => c.toNat - '0'.toNat) := by
  rw [Nat.ofDigits_eq_foldr, List.foldr_map, List.foldr_reverse]
  refine congrArg (fun step => digits.foldl step 0) ?_
  funext n c
  exact Nat.add_comm _ _

theorem isAsciiDigit_iff {c : Char} : Text.isAsciiDigit c = true ↔ '0' ≤ c ∧ c ≤ '9' := by
  simp [Text.isAsciiDigit]

theorem number?_eq_some_iff {digits : List Char} {n : Nat} :
    number? digits = some n ↔ IsNumber digits n := by
  rw [number?, foldl_digits]
  constructor
  · intro h
    split at h
    · exact absurd h (by simp)
    · rename_i hdigits
      simp only [Bool.or_eq_true, Bool.not_eq_true', not_or, List.isEmpty_iff,
        Bool.not_eq_false, List.all_eq_true] at hdigits
      obtain ⟨hbelow, hn⟩ := Option.ite_none_right_eq_some.mp h
      obtain rfl := Option.some.inj hn
      exact ⟨hdigits.1, fun c hc => isAsciiDigit_iff.mp (hdigits.2 c hc), rfl, hbelow⟩
  · rintro ⟨hne, hdigit, rfl, hbelow⟩
    have hall : digits.all Text.isAsciiDigit = true :=
      List.all_eq_true.mpr fun c hc => isAsciiDigit_iff.mpr (hdigit c hc)
    rw [if_neg (by simp [hne, hall])]
    exact if_pos hbelow

/-- One part is read, and the parts after it are left. -/
theorem nextNumber?_eq_some_iff {parts rest : List (List Char)} {n : Nat} :
    nextNumber? parts = some (n, rest) ↔ StandsFor parts[0]? n ∧ rest = parts.tail := by
  cases parts with
  | nil =>
      constructor
      · rintro h
        obtain ⟨rfl, rfl⟩ := Prod.mk.inj (Option.some.inj h)
        exact ⟨.missing, rfl⟩
      · rintro ⟨⟨⟩, rfl⟩
        rfl
  | cons part parts =>
      simp only [nextNumber?, Option.map_eq_some_iff, number?_eq_some_iff, Prod.mk.injEq]
      constructor
      · rintro ⟨n, hn, rfl, rfl⟩
        exact ⟨.number hn, rfl⟩
      · rintro ⟨⟨⟩ | hn, rfl⟩
        exact ⟨n, hn, rfl, rfl⟩

end Number

section Parts

theorem mem_core {s : List Char} {c : Char} (h : c ∈ core s) : c ≠ '-' ∧ c ≠ '+' := by
  have hkept := List.all_eq_true.mp List.all_takeWhile c h
  simpa using hkept

theorem cut_of_head? {s : List Char} {c : Char}
    (h : (s.dropWhile fun c => c != '-' && c != '+').head? = some c) : c = '-' ∨ c = '+' := by
  have hhead := List.head?_dropWhile_not (fun c => c != '-' && c != '+') s
  rw [h] at hhead
  simpa only [Bool.and_eq_false_iff, bne_eq_false_iff_eq] using hhead

theorem splits_trimmed (text : String) :
    Splits text (Text.trimmed text) (Text.pieces '.' (core (Text.trimmed text).toList)) where
  trims := by
    rw [Text.trimmed, String.toList_ofList]
    exact Text.trims_trim text.toList
  nonempty := Text.pieces_ne_nil '.' _
  plain part hpart c hc :=
    ⟨fun h => Text.not_mem_of_mem_pieces hpart (h ▸ hc), mem_core (Text.mem_of_mem_pieces hpart hc)⟩
  cut := by
    refine ⟨(Text.trimmed text).toList.dropWhile fun c => c != '-' && c != '+', ?_, ?_⟩
    · rw [Text.joined_pieces, core, List.takeWhile_append_dropWhile]
    · exact fun c hc => cut_of_head? hc

/-- A text is parted in one way. -/
theorem Splits.eq {text raw : String} {parts : List (List Char)} (h : Splits text raw parts) :
    raw = Text.trimmed text ∧ Text.pieces '.' (core raw.toList) = parts := by
  obtain ⟨rest, hraw, hrest⟩ := h.cut
  have hbefore : ∀ c ∈ Text.joined ['.'] parts, (c != '-' && c != '+') = true := by
    intro c hc
    by_cases hdot : c = '.'
    · rw [hdot]
      rfl
    · obtain ⟨part, hpart, hmem⟩ := Text.exists_mem_pieces hc hdot
      rw [Text.pieces_joined h.nonempty fun part hpart hmem => (h.plain part hpart '.' hmem).1 rfl]
        at hpart
      obtain ⟨-, hhyphen, hplus⟩ := h.plain part hpart c hmem
      simp [hhyphen, hplus]
  have hcore : core raw.toList = Text.joined ['.'] parts := by
    rw [core, hraw, List.takeWhile_append_of_pos hbefore]
    cases rest with
    | nil => simp
    | cons c rest => rcases hrest c rfl with rfl | rfl <;> simp
  refine ⟨?_, ?_⟩
  · rw [Text.trimmed, Text.trim_eq_iff.mpr h.trims, String.ofList_toList]
  · rw [hcore, Text.pieces_joined h.nonempty fun part hpart hmem =>
      (h.plain part hpart '.' hmem).1 rfl]

end Parts

section Reading

theorem numbers?_eq_some_iff {s : List Char} {major minor patch : Nat} :
    numbers? s = some (major, minor, patch) ↔
      StandsFor (Text.pieces '.' (core s))[0]? major ∧
        StandsFor (Text.pieces '.' (core s))[1]? minor ∧
        StandsFor (Text.pieces '.' (core s))[2]? patch := by
  generalize hparts : Text.pieces '.' (core s) = parts
  simp only [numbers?, hparts, Option.bind_eq_bind, Option.bind_eq_some_iff, Prod.exists,
    nextNumber?_eq_some_iff, Option.pure_def, Option.some.injEq, Prod.mk.injEq]
  constructor
  · rintro ⟨_, _, ⟨hmajor, rfl⟩, _, _, ⟨hminor, rfl⟩, _, _, ⟨hpatch, rfl⟩, rfl, rfl, rfl⟩
    simp only [List.getElem?_tail, Nat.zero_add] at hminor hpatch
    exact ⟨hmajor, hminor, hpatch⟩
  · rintro ⟨hmajor, hminor, hpatch⟩
    refine ⟨_, _, ⟨hmajor, rfl⟩, _, _, ⟨?_, rfl⟩, _, _, ⟨?_, rfl⟩, rfl, rfl, rfl⟩
    · simpa only [List.getElem?_tail, Nat.zero_add] using hminor
    · simpa only [List.getElem?_tail, Nat.zero_add] using hpatch

theorem exists_component_iff {part? : Option (List Char)} :
    (∃ n, StandsFor part? n) ↔ ∀ part, part? = some part → ∃ n, IsNumber part n := by
  constructor
  · rintro ⟨n, hn⟩ part rfl
    cases hn with
    | number hn => exact ⟨n, hn⟩
  · intro h
    cases part? with
    | none => exact ⟨0, .missing⟩
    | some part =>
        obtain ⟨n, hn⟩ := h part rfl
        exact ⟨n, .number hn⟩

theorem forall_mem_take_three {α : Type} {P : α → Prop} {s : List α} :
    (∀ x ∈ s.take 3, P x) ↔
      (∀ x, s[0]? = some x → P x) ∧ (∀ x, s[1]? = some x → P x) ∧ ∀ x, s[2]? = some x → P x := by
  match s with
  | [] => simp
  | [x] => simp
  | [x, y] => simp
  | x :: y :: z :: s => simp

/-- Nothing is read exactly if one of the first three parts is no number. -/
theorem numbers?_eq_none_iff {s : List Char} :
    numbers? s = none ↔
      ∃ part ∈ (Text.pieces '.' (core s)).take 3, ∀ n, ¬IsNumber part n := by
  have hread : (∃ numbers, numbers? s = some numbers) ↔
      ∀ part ∈ (Text.pieces '.' (core s)).take 3, ∃ n, IsNumber part n := by
    simp only [forall_mem_take_three, ← exists_component_iff, Prod.exists, numbers?_eq_some_iff,
      exists_and_left, exists_and_right]
  rw [← not_iff_not, ← ne_eq, Option.ne_none_iff_exists', hread]
  push Not
  rfl

variable {text : String}

theorem parse_eq_ok_iff {v : Version} :
    parse text = .ok v ↔ ∃ parts, Splits text v.raw parts ∧ StandsFor parts[0]? v.major ∧
      StandsFor parts[1]? v.minor ∧ StandsFor parts[2]? v.patch := by
  obtain ⟨raw, major, minor, patch⟩ := v
  have hparse : parse text = .ok ⟨raw, major, minor, patch⟩ ↔
      Text.trimmed text = raw ∧ numbers? raw.toList = some (major, minor, patch) := by
    rw [parse]
    constructor
    · intro h
      split at h
      · rename_i hnumbers
        cases h
        exact ⟨rfl, hnumbers⟩
      · cases h
    · rintro ⟨rfl, hnumbers⟩
      simp only [hnumbers]
  rw [hparse, numbers?_eq_some_iff]
  constructor
  · rintro ⟨rfl, hcomponents⟩
    exact ⟨_, splits_trimmed text, hcomponents⟩
  · rintro ⟨parts, hsplits, hcomponents⟩
    obtain ⟨hraw, hparts⟩ := hsplits.eq
    exact ⟨hraw.symm, hparts ▸ hcomponents⟩

theorem parse_eq_error_iff {e : ParseError} :
    parse text = .error e ↔ ∃ parts, Splits text e.input parts ∧
      ∃ part ∈ parts.take 3, ∀ n, ¬IsNumber part n := by
  obtain ⟨raw⟩ := e
  have hparse : parse text = .error ⟨raw⟩ ↔
      Text.trimmed text = raw ∧ numbers? raw.toList = none := by
    rw [parse]
    constructor
    · intro h
      split at h
      · cases h
      · rename_i hnumbers
        cases h
        exact ⟨rfl, hnumbers⟩
    · rintro ⟨rfl, hnumbers⟩
      simp only [hnumbers]
  rw [hparse, numbers?_eq_none_iff]
  constructor
  · rintro ⟨rfl, hpart⟩
    exact ⟨_, splits_trimmed text, hpart⟩
  · rintro ⟨parts, hsplits, hpart⟩
    obtain ⟨hraw, hparts⟩ := hsplits.eq
    exact ⟨hraw.symm, hparts ▸ hpart⟩

theorem atLeast_iff {v : Version} {major minor : Nat} :
    v.atLeast major minor = true ↔ toLex (major, minor) ≤ toLex (v.major, v.minor) := by
  rw [atLeast, decide_eq_true_iff, Prod.Lex.toLex_le_toLex, eq_comm]

end Reading

/-- A text is read as a version exactly if its first three parts, as far as there are so many, are
numbers below the limit. The version has the text between the blanks and the values of these
parts, with zero for a part that is missing; any other text is refused with the text between the
blanks. What a version reaches is decided by its first two numbers in lexicographic order. -/
theorem parse_grammar (text : String) :
    (∀ v : Version, parse text = .ok v ↔ ∃ parts, Splits text v.raw parts ∧
      StandsFor parts[0]? v.major ∧ StandsFor parts[1]? v.minor ∧ StandsFor parts[2]? v.patch) ∧
    (∀ e : ParseError, parse text = .error e ↔ ∃ parts, Splits text e.input parts ∧
      ∃ part ∈ parts.take 3, ∀ n, ¬IsNumber part n) ∧
    ∀ (v : Version) (major minor : Nat),
      v.atLeast major minor = true ↔ toLex (major, minor) ≤ toLex (v.major, v.minor) :=
  ⟨fun _ => parse_eq_ok_iff, fun _ => parse_eq_error_iff, fun _ _ _ => atLeast_iff⟩

/-- The number after the limit is refused and does not wrap around, and a fourth part is not
looked at. -/
example : parse " 1.4294967296\t" = .error ⟨"1.4294967296"⟩ ∧
    parse "3.4.021.x+5" = .ok ⟨"3.4.021.x+5", 3, 4, 21⟩ := by
  decide +kernel


end Version
end ComponentCompiler
