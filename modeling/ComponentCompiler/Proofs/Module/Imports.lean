import ComponentCompiler.Proofs.Module.Format
import ComponentCompiler.Proofs.Text.Places

/-!
# Import statements as the formats read them

A dynamic module rewrites two kinds of imports: that of an image and that of a list of names. Each
reader accepts exactly the statements of its kind, with or without a semicolon, and leaves what
comes after the statement.
-/

namespace ComponentCompiler.Module

open Text

/-- The semicolon that may end a statement. -/
def semicolon (ended : Bool) : List Char := if ended then [';'] else []

def isQuote (c : Char) : Bool := c == '\'' || c == '"'

/-- A path in quotes, of any kind each. -/
def Quoted (path : List Char) (quoted : List Char) : Prop :=
  ∃ opening closing, (opening = '\'' ∨ opening = '"') ∧ (closing = '\'' ∨ closing = '"') ∧
    quoted = opening :: (path ++ [closing]) ∧ path ≠ [] ∧ ∀ c ∈ path, isPathChar c

/-- A character of the name that an image is imported under. -/
def isAssetNameChar (c : Char) : Bool := isWord c || c == '$' || c == '-'

/-- The import of an image. -/
def assetImport (name quoted : List Char) (ended : Bool) : List Char :=
  "import ".toList ++ (name ++ (" from ".toList ++ (quoted ++ semicolon ended)))

/-- A name and a path in quotes that make the import of an image. -/
structure IsAsset (name quoted : List Char) : Prop where
  name_ne : name ≠ []
  name_class : ∀ c ∈ name, isAssetNameChar c
  path : ∃ path, Quoted path quoted ∧ isAssetPath path

/-- What stands for the import of an image: a constant, and a comment that starts with the path. -/
def assetText (name quoted : List Char) : List Char :=
  "const ".toList ++ (name ++ (" = ''; // ".toList ++ quoted))

/-- The import of a list of names. -/
def namesImport (names quoted : List Char) (ended : Bool) : List Char :=
  "import \x7b".toList ++ (names ++ ("\x7d from ".toList ++ (quoted ++ semicolon ended)))

/-- A list of names and a path in quotes that make an import. -/
structure IsNames (names quoted : List Char) : Prop where
  names_ne : names ≠ []
  names_class : ∀ c ∈ names, isSpecifierChar c
  path : ∃ path, Quoted path quoted

/-- What stands for the import of a list of names. -/
def namesText (names quoted : List Char) : List Char :=
  "const \x7b".toList ++ (replaceEvery " as ".toList ": ".toList names ++
    ("\x7d = require(".toList ++ (quoted ++ ");".toList)))

section Reading

theorem assetImport_append (name quoted : List Char) (ended : Bool) (rest : List Char) :
    assetImport name quoted ended ++ rest =
      "import ".toList ++ (name ++ (" from ".toList ++ (quoted ++ (semicolon ended ++ rest)))) := by
  unfold assetImport
  simp only [List.append_assoc]

theorem namesImport_append (names quoted : List Char) (ended : Bool) (rest : List Char) :
    namesImport names quoted ended ++ rest =
      "import \x7b".toList ++
        (names ++ ("\x7d from ".toList ++ (quoted ++ (semicolon ended ++ rest)))) := by
  unfold namesImport
  simp only [List.append_assoc]

theorem assetText_eq (name quoted : List Char) :
    assetText name quoted = "const ".toList ++ name ++ " = ''; // ".toList ++ quoted := by
  unfold assetText
  simp only [List.append_assoc]

theorem namesText_eq (names quoted : List Char) :
    namesText names quoted = "const \x7b".toList ++ replaceEvery " as ".toList ": ".toList names ++
      "\x7d = require(".toList ++ quoted ++ ");".toList := by
  unfold namesText
  simp only [List.append_assoc]

variable {s rest replacement quoted : List Char} {before : Option Char}

theorem quote?_eq_some_iff {c : Char} :
    quote? s = some (c, rest) ↔ s = c :: rest ∧ (c = '\'' ∨ c = '"') := by
  cases s with
  | nil => simp [quote?]
  | cons d s =>
    rw [quote?, Option.ite_none_right_eq_some]
    constructor
    · rintro ⟨hquote, heq⟩
      obtain ⟨rfl, rfl⟩ := Prod.mk.inj (Option.some.inj heq)
      exact ⟨rfl, hquote⟩
    · rintro ⟨heq, hquote⟩
      obtain ⟨rfl, rfl⟩ := List.cons.inj heq
      exact ⟨hquote, rfl⟩

/-- A semicolon is read if there is one. -/
theorem getD_semicolon_eq_iff : (word? ";" s).getD s = rest ↔
    ∃ ended, s = semicolon ended ++ rest ∧ (ended = false → rest.head? ≠ some ';') := by
  by_cases hs : s.head? = some ';'
  · obtain ⟨s, rfl⟩ := List.head?_eq_some_iff.mp hs
    have hread : word? ";" (';' :: s) = some s := rfl
    rw [hread, Option.getD_some]
    constructor
    · rintro rfl
      exact ⟨true, rfl, nofun⟩
    · rintro ⟨ended, hsplit, hended⟩
      cases ended with
      | true => exact (List.cons.inj hsplit).2
      | false => exact absurd (congrArg List.head? hsplit).symm (hended rfl)
  · have hread : word? ";" s = none := by
      rw [word?_eq_none_iff]
      rintro ⟨rest, rfl⟩
      exact hs rfl
    rw [hread, Option.getD_none]
    constructor
    · rintro rfl
      exact ⟨false, rfl, fun _ => hs⟩
    · rintro ⟨ended, rfl, -⟩
      cases ended with
      | true => exact absurd rfl hs
      | false => rfl

theorem quotedPath?_eq_some_iff {isPath : List Char → Bool} :
    quotedPath? isPath s = some (quoted, rest) ↔ ∃ path ended, Quoted path quoted ∧ isPath path ∧
      s = quoted ++ (semicolon ended ++ rest) ∧ (ended = false → rest.head? ≠ some ';') := by
  simp only [quotedPath?, Option.bind_eq_bind, Option.bind_eq_some_iff, Option.pure_def,
    Option.ite_none_right_eq_some, Option.some.injEq, Prod.mk.injEq, Prod.exists,
    quote?_eq_some_iff, run?_eq_some_iff, getD_semicolon_eq_iff]
  constructor
  · rintro ⟨opening, s₁, ⟨rfl, hopening⟩, path, s₂, ⟨rfl, hne, hclass, -⟩, closing, s₃,
      ⟨rfl, hclosing⟩, hpath, rfl, ended, rfl, hended⟩
    exact ⟨path, ended, ⟨opening, closing, hopening, hclosing, rfl, hne, hclass⟩, hpath,
      by simp, hended⟩
  · rintro ⟨path, ended, ⟨opening, closing, hopening, hclosing, rfl, hne, hclass⟩, hpath, rfl,
      hended⟩
    refine ⟨opening, _, ⟨rfl, hopening⟩, path, _, ⟨List.append_assoc _ _ _, hne, hclass, ?_⟩,
      closing, _, ⟨rfl, hclosing⟩, hpath, rfl, ended, rfl, hended⟩
    rintro c ⟨⟩
    rcases hclosing with rfl | rfl <;> decide

/-- The reader of images accepts exactly their imports. -/
theorem assetConstant_eq_some_iff : assetConstant before s = some (replacement, rest) ↔
    ∃ name quoted ended, IsAsset name quoted ∧ s = assetImport name quoted ended ++ rest ∧
      (ended = false → rest.head? ≠ some ';') ∧ replacement = assetText name quoted := by
  simp only [assetConstant, Option.bind_eq_bind, Option.bind_eq_some_iff, Option.pure_def,
    Option.some.injEq, Prod.mk.injEq, Prod.exists, word?_eq_some_iff, run?_eq_some_iff,
    quotedPath?_eq_some_iff]
  constructor
  · rintro ⟨_, rfl, name, _, ⟨rfl, hne, hclass, -⟩, _, rfl, quoted, _,
      ⟨path, ended, hquoted, hpath, rfl, hended⟩, rfl, rfl⟩
    exact ⟨name, quoted, ended, ⟨hne, hclass, path, hquoted, hpath⟩,
      (assetImport_append name quoted ended _).symm, hended, (assetText_eq name quoted).symm⟩
  · rintro ⟨name, quoted, ended, ⟨hne, hclass, path, hquoted, hpath⟩, rfl, hended, rfl⟩
    refine ⟨name ++ (" from ".toList ++ (quoted ++ (semicolon ended ++ rest))),
      assetImport_append name quoted ended rest, name,
      " from ".toList ++ (quoted ++ (semicolon ended ++ rest)), ⟨rfl, hne, hclass, ?_⟩,
      quoted ++ (semicolon ended ++ rest), rfl, quoted, rest,
      ⟨path, ended, hquoted, hpath, rfl, hended⟩, (assetText_eq name quoted).symm, rfl⟩
    rintro c ⟨⟩
    decide

/-- The reader of lists of names accepts exactly their imports. -/
theorem requiredNames_eq_some_iff : requiredNames before s = some (replacement, rest) ↔
    ∃ names quoted ended, IsNames names quoted ∧ s = namesImport names quoted ended ++ rest ∧
      (ended = false → rest.head? ≠ some ';') ∧ replacement = namesText names quoted := by
  simp only [requiredNames, Option.bind_eq_bind, Option.bind_eq_some_iff, Option.pure_def,
    Option.some.injEq, Prod.mk.injEq, Prod.exists, word?_eq_some_iff, run?_eq_some_iff,
    quotedPath?_eq_some_iff]
  constructor
  · rintro ⟨_, rfl, names, _, ⟨rfl, hne, hclass, -⟩, _, rfl, quoted, _,
      ⟨path, ended, hquoted, -, rfl, hended⟩, rfl, rfl⟩
    exact ⟨names, quoted, ended, ⟨hne, hclass, path, hquoted⟩,
      (namesImport_append names quoted ended _).symm, hended, (namesText_eq names quoted).symm⟩
  · rintro ⟨names, quoted, ended, ⟨hne, hclass, path, hquoted⟩, rfl, hended, rfl⟩
    refine ⟨names ++ ("\x7d from ".toList ++ (quoted ++ (semicolon ended ++ rest))),
      namesImport_append names quoted ended rest, names,
      "\x7d from ".toList ++ (quoted ++ (semicolon ended ++ rest)), ⟨rfl, hne, hclass, ?_⟩,
      quoted ++ (semicolon ended ++ rest), rfl, quoted, rest,
      ⟨path, ended, hquoted, trivial, rfl, hended⟩, (namesText_eq names quoted).symm, rfl⟩
    rintro c ⟨⟩
    decide

end Reading

section Characters

variable {path quoted head text : List Char} {c : Char}

theorem not_mem_of_class {p : Char → Bool} (h : ∀ d ∈ text, p d) (hc : p c = false) : c ∉ text := by
  intro hmem
  rw [h c hmem] at hc
  cases hc

theorem isQuote_iff : isQuote c ↔ c = '\'' ∨ c = '"' := by
  simp [isQuote]

/-- A text without quotes. -/
def Unquoted (text : List Char) : Prop := ∀ c ∈ text, isQuote c = false

instance (text : List Char) : Decidable (Unquoted text) :=
  inferInstanceAs (Decidable (∀ c ∈ text, isQuote c = false))

theorem Unquoted.around (h : Unquoted text) {front back : List Char} (hfront : Unquoted front)
    (hback : Unquoted back) : Unquoted (front ++ (text ++ back)) :=
  List.forall_mem_append.mpr ⟨hfront, List.forall_mem_append.mpr ⟨h, hback⟩⟩

theorem unquoted_of_class {p : Char → Bool} (h : ∀ c ∈ text, p c)
    (hp : p '\'' = false ∧ p '"' = false) : Unquoted text := by
  intro c hc
  by_contra hquote
  rcases isQuote_iff.mp (by simpa using hquote) with rfl | rfl
  · exact not_mem_of_class h hp.1 hc
  · exact not_mem_of_class h hp.2 hc

/-- A rule that stops at quotes writes none. -/
theorem unquoted_everywhere {rule : Replacer} (h : ∀ c, isQuote c → rule.StopsAt c)
    (htext : Unquoted text) : Unquoted (rule.everywhere none 0 text) := by
  intro c hc
  by_contra hquote
  rw [Bool.not_eq_false] at hquote
  refine (h c hquote).not_mem_everywhere (fun hmem => ?_) hc
  rw [htext c hmem] at hquote
  cases hquote

/-- A character that ends an import: a quote or a semicolon. -/
def isEnd (c : Char) : Bool := isQuote c || c == ';'

theorem isEnd_iff : isEnd c ↔ c = '\'' ∨ c = '"' ∨ c = ';' := by
  simp [isEnd, isQuote, or_assoc]

theorem unquoted_of_isEnd (h : ∀ c ∈ text, isEnd c = false) : Unquoted text := fun c hc =>
  (Bool.or_eq_false_iff.mp (h c hc)).1

/-- What ends an import belongs to no word. -/
theorem isWord_of_isEnd (h : isEnd c) : isWord c = false := by
  rcases isEnd_iff.mp h with rfl | rfl | rfl <;> decide

theorem isAssetNameChar_of_isEnd (h : isEnd c) : isAssetNameChar c = false := by
  rcases isEnd_iff.mp h with rfl | rfl | rfl <;> decide

/-- A character that belongs to no path and is no quote. -/
theorem Quoted.not_mem (h : Quoted path quoted) (hquote : isQuote c = false)
    (hclass : isPathChar c = false) : c ∉ quoted := by
  obtain ⟨opening, closing, hopening, hclosing, rfl, -, hpath⟩ := h
  have hmem : c ∉ path := not_mem_of_class hpath hclass
  have hother {d : Char} (hd : d = '\'' ∨ d = '"') : c ≠ d := by
    rintro rfl
    rw [isQuote_iff.mpr hd] at hquote
    cases hquote
  simp [hother hopening, hother hclosing, hmem]

/-- A path and a semicolon have no blank, and none of what the other parts of an import need. -/
theorem Quoted.not_mem_end (h : Quoted path quoted) (hend : isEnd c = false)
    (hclass : isPathChar c = false) (ended : Bool) : c ∉ quoted ++ semicolon ended := by
  obtain ⟨hquote, hsemicolon⟩ := Bool.or_eq_false_iff.mp hend
  have hmem : c ∉ semicolon ended := by
    cases ended
    · exact List.not_mem_nil
    · simpa [semicolon] using hsemicolon
  exact List.not_mem_append (h.not_mem hquote hclass) hmem

theorem Quoted.getLast? (h : Quoted path quoted) (front : List Char) (ended : Bool) :
    ∃ c, (front ++ (quoted ++ semicolon ended)).getLast? = some c ∧ isEnd c := by
  cases ended with
  | true => exact ⟨';', by simp [semicolon], rfl⟩
  | false =>
    obtain ⟨opening, closing, -, hclosing, rfl, -, -⟩ := h
    refine ⟨closing, ?_, isEnd_iff.mpr (hclosing.imp_right .inl)⟩
    rw [semicolon, if_neg Bool.false_ne_true, List.append_nil, ← List.cons_append,
      ← List.append_assoc, List.getLast?_concat]

/-- A text that needs a blank and none of the characters at the end of an import is not read
there. -/
theorem Quoted.absent (h : Quoted path quoted) (hblank : ' ' ∈ head)
    (hends : ∀ c ∈ head, isEnd c = false) (ended : Bool) (rest : List Char) :
    Absent head (quoted ++ semicolon ended) rest := by
  obtain ⟨c, hlast, hc⟩ := h.getLast? [] ended
  refine absent_of_last hblank (h.not_mem_end (by decide) (by decide) ended) hlast fun hmem => ?_
  rw [hends c hmem] at hc
  cases hc

end Characters

section Heads

variable {name names quoted : List Char}

/-- What every import of an image under a name starts with. -/
def assetHead (name : List Char) : List Char := "import ".toList ++ (name ++ " from ".toList)

theorem assetImport_split (name quoted : List Char) (ended : Bool) (rest : List Char) :
    assetImport name quoted ended ++ rest =
      assetHead name ++ (quoted ++ (semicolon ended ++ rest)) := by
  rw [assetImport_append]
  unfold assetHead
  simp only [List.append_assoc]

/-- A name between two texts of which neither has the end of an import. -/
theorem IsAsset.class_around (h : IsAsset name quoted) (front back : List Char)
    (hfront : ∀ c ∈ front, isEnd c = false) (hback : ∀ c ∈ back, isEnd c = false) :
    ∀ c ∈ front ++ (name ++ back), isEnd c = false := by
  intro c hc
  rcases List.mem_append.mp hc with hc | hc
  · exact hfront c hc
  · rcases List.mem_append.mp hc with hc | hc
    · by_contra hend
      exact not_mem_of_class h.name_class (isAssetNameChar_of_isEnd (by simpa using hend)) hc
    · exact hback c hc

theorem assetHead_class (h : IsAsset name quoted) : ∀ c ∈ assetHead name, isEnd c = false :=
  h.class_around _ _ (by decide) (by decide)

/-- What comes before the path of an import of names. -/
def importHead (names : List Char) : List Char :=
  "import \x7b".toList ++ (names ++ "\x7d from ".toList)

theorem namesImport_eq (names : List Char) (opening closing : Char) (path : List Char)
    (ended : Bool) : namesImport names (opening :: (path ++ [closing])) ended =
      importHead names ++ opening :: (path ++ closing :: semicolon ended) := by
  unfold namesImport importHead
  simp only [List.append_assoc, List.cons_append, List.nil_append]

theorem unquoted_importHead (h : Unquoted names) : Unquoted (importHead names) :=
  h.around (by decide) (by decide)

/-- The brace before the path of an import of names belongs to no name of an image. -/
theorem not_suffix_importHead {name : List Char} (h : IsAsset name quoted) (names : List Char) :
    ¬assetHead name <:+ importHead names := by
  have hname : assetHead name = "import ".toList ++ name ++ " from ".toList := by
    unfold assetHead
    simp only [List.append_assoc]
  have hnames : importHead names =
      "import \x7b".toList ++ names ++ ['\x7d'] ++ " from ".toList := by
    have hend : "\x7d from ".toList = ['\x7d'] ++ " from ".toList := rfl
    unfold importHead
    rw [hend, ← List.append_assoc, ← List.append_assoc]
  rw [hname, hnames, List.suffix_append_self_iff]
  intro hsuffix
  have hbrace := (List.suffix_append "import ".toList name).trans hsuffix
  rcases List.suffix_concat_iff.mp hbrace with hnil | ⟨front, hlast, -⟩
  · exact h.name_ne hnil
  · have hmem : '\x7d' ∈ name := by
      rw [hlast]
      exact List.mem_append_right _ (List.mem_singleton_self _)
    exact not_mem_of_class h.name_class (by decide) hmem

end Heads

section Exports

variable {c : Char} {part rest : List Char}

/-- What a dynamic module rewrites of an export. -/
def exportHead (next : String) : List Char := "export".toList ++ ' ' :: next.toList

theorem blank_mem_exportHead (next : String) : ' ' ∈ exportHead next :=
  List.mem_append_right _ List.mem_cons_self

/-- Nothing is rewritten where no word that declares comes after an export. -/
theorem silent_bareDeclaration
    (h : ∀ next ∈ declarationWords, Absent (exportHead next) part rest) :
    bareDeclaration.Silent part rest := by
  refine Replacer.silent_of_absent (declarationWords.map exportHead) (fun hrule => ?_)
    fun head hhead => ?_
  · obtain ⟨hword, rfl⟩ := eq_of_bareDeclaration hrule
    obtain ⟨next, hnext, hreplacement⟩ := List.mem_map.mp hword
    refine ⟨exportHead next, List.mem_map_of_mem hnext, ?_⟩
    rw [← hreplacement]
    exact List.prefix_append _ _
  · obtain ⟨next, hnext, rfl⟩ := List.mem_map.mp hhead
    exact h next hnext

theorem bareDeclaration_stopsAt_quote (h : isQuote c) : bareDeclaration.StopsAt c := by
  rcases isQuote_iff.mp h with rfl | rfl
  · exact bareDeclaration_stopsAt (by decide) (by decide)
  · exact bareDeclaration_stopsAt (by decide) (by decide)

end Exports

end ComponentCompiler.Module
