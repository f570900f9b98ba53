import ComponentCompiler.Proofs.Module.Exports
import ComponentCompiler.Proofs.Module.Imports

/-!
# When an import of names becomes a call of `require`

An import of a list of names becomes a constant with the same names if its names and its path are
made of the characters that the reader of imports knows. A name that is imported under another one
is then written with a colon, by a rewrite that takes every ` as ` for the word between two names.
A name `as` with a blank on both sides is taken for that word, too.
-/

namespace ComponentCompiler.Module

open Text

/-- A character that may be part of a name in a list of names: blanks, commas and quotes are not. -/
def mayName (c : Char) : Bool := !(c == ' ' || c == ',' || isQuote c)

/-- A name that is imported, perhaps under another one. -/
structure Specifier where
  name : List Char
  renamed : Option (List Char)
  names_class : ∀ c ∈ name ++ renamed.getD [], mayName c

/-- A specifier with what stands between its two names. -/
def Specifier.written (between : String) : Specifier → List Char
  | ⟨name, none, _⟩ => name
  | ⟨name, some renamed, _⟩ => name ++ (between.toList ++ renamed)

/-- The characters of the names in a specifier. -/
def Specifier.letters (s : Specifier) : List Char := s.name ++ s.renamed.getD []

/-- A list of specifiers between its braces. -/
def bindings (between : String) (specifiers : List Specifier) : List Char :=
  ' ' :: (", ".toList.intercalate (specifiers.map (Specifier.written between)) ++ [' '])

/-- The import of some names. -/
def namedImport (specifiers : List Specifier) (quote : Char) (path : List Char) (ended : Bool) :
    List Char :=
  namesImport (bindings " as " specifiers) (quote :: (path ++ [quote])) ended

/-- The constant with the same names of what is required. -/
def requiredBindings (specifiers : List Specifier) (quote : Char) (path : List Char) : List Char :=
  "const \x7b".toList ++ (bindings ": " specifiers ++
    ("\x7d = require(".toList ++ (quote :: (path ++ [quote]) ++ ");".toList)))

/-- A list of specifiers in which no name `as` comes between two blanks. -/
def Legible (specifiers : List Specifier) : Prop :=
  (∀ s ∈ specifiers, s.name = "as".toList → s.renamed = none) ∧
    ∀ s ∈ specifiers.getLast?, s.name ≠ "as".toList

section Bindings

variable {between : String} {s t : Specifier} {specifiers : List Specifier} {c : Char}

theorem bindings_singleton (between : String) (s : Specifier) :
    bindings between [s] = ' ' :: s.written between ++ [' '] := by
  rw [bindings, List.map_singleton, List.intercalate_singleton, List.cons_append]

theorem bindings_cons_cons (between : String) (s t : Specifier) (specifiers : List Specifier) :
    bindings between (s :: t :: specifiers) =
      ' ' :: s.written between ++ ',' :: bindings between (t :: specifiers) := by
  rw [bindings, bindings, List.map_cons, List.map_cons, List.intercalate_cons_cons]
  simp

theorem mem_written : c ∈ s.written between ↔
    c ∈ s.letters ∨ c ∈ between.toList ∧ s.renamed.isSome := by
  obtain ⟨name, _ | renamed, hname⟩ := s
  · simp [Specifier.written, Specifier.letters]
  · simp only [Specifier.written, Specifier.letters, List.mem_append, Option.getD_some,
      Option.isSome_some, and_true]
    rw [or_comm (a := c ∈ between.toList), or_assoc]

/-- A list of specifiers has the characters of its names, and those that separate them. -/
theorem mem_bindings (hne : specifiers ≠ []) (h : c ∈ bindings between specifiers) :
    c = ' ' ∨ c = ',' ∨ c ∈ between.toList ∨ ∃ s ∈ specifiers, c ∈ s.letters := by
  have hwritten (s : Specifier) (hc : c ∈ ' ' :: s.written between) :
      c = ' ' ∨ c = ',' ∨ c ∈ between.toList ∨ c ∈ s.letters := by
    rw [List.mem_cons, mem_written] at hc
    rcases hc with hblank | hletter | ⟨hbetween, -⟩
    · exact .inl hblank
    · exact .inr (.inr (.inr hletter))
    · exact .inr (.inr (.inl hbetween))
  induction specifiers with
  | nil => exact absurd rfl hne
  | cons s specifiers ih =>
    rw [List.exists_mem_cons_iff]
    cases specifiers with
    | nil =>
      rw [bindings_singleton] at h
      rcases List.mem_append.mp h with h | h
      · exact (hwritten s h).imp_right (.imp_right (.imp_right .inl))
      · exact .inl (List.mem_singleton.mp h)
    | cons t specifiers =>
      rw [bindings_cons_cons] at h
      rcases List.mem_append.mp h with h | h
      · exact (hwritten s h).imp_right (.imp_right (.imp_right .inl))
      · rcases List.mem_cons.mp h with h | h
        · exact .inr (.inl h)
        · exact (ih (by simp) h).imp_right (.imp_right (.imp_right .inr))

theorem mem_bindings_of_mem_letters (hs : s ∈ specifiers) (hc : c ∈ s.letters) :
    c ∈ bindings between specifiers := by
  have hwritten : c ∈ s.written between := mem_written.mpr (.inl hc)
  induction specifiers with
  | nil => cases hs
  | cons t specifiers ih =>
    cases specifiers with
    | nil =>
      rw [List.mem_singleton.mp hs] at hwritten
      rw [bindings_singleton]
      simp [hwritten]
    | cons u specifiers =>
      rw [bindings_cons_cons]
      rcases List.mem_cons.mp hs with rfl | hs
      · simp [hwritten]
      · simp [ih hs]

end Bindings

section Renaming

/-- What stands between the two names of a specifier is replaced. -/
def colonForAs : Replacer := Replacer.fixed " as ".toList ": ".toList

theorem colonForAs_stopsAt {stop : Char} (has : stop ∉ " as ".toList)
    (hcolon : stop ∉ ": ".toList) : colonForAs.StopsAt stop :=
  Replacer.fixed_stopsAt (by decide) has hcolon

theorem silent_colonForAs {part rest : List Char} (h : Absent " as ".toList part rest) :
    colonForAs.Silent part rest :=
  Replacer.silent_fixed h _

variable {name rest tail : List Char} {s t : Specifier} {specifiers : List Specifier}

/-- A name that is not `as`, and that ends the text or is followed by a blank. -/
theorem absent_as (hname : ' ' ∉ name) (has : name ≠ "as".toList)
    (hrest : rest = [] ∨ rest.head? = some ' ') : Absent " as ".toList (' ' :: name) rest := by
  refine .cons (fun hleads => ?_) (absent_of_first hname _ _)
  obtain ⟨-, hstart⟩ := List.cons_prefix_cons.mp hleads
  rcases hrest with rfl | hblank
  · rw [List.append_nil] at hstart
    exact hname (hstart.subset (by decide))
  · obtain ⟨rest, rfl⟩ := List.head?_eq_some_iff.mp hblank
    have hword : ' ' ∉ "as".toList := by decide
    exact has ((prefix_past_iff hword hname).mp hstart).1

/-- One specifier: only a name `as` before a blank is mistaken. -/
theorem everywhere_colonForAs_iff (s : Specifier) (htail : tail = [] ∨ tail = [' ']) :
    colonForAs.everywhere none 0 (' ' :: s.written " as " ++ tail) = ' ' :: s.written ": " ++ tail ↔
      (s.name = "as".toList → s.renamed = none ∧ tail = []) := by
  obtain ⟨name, renamed, hs⟩ := s
  have hname : ' ' ∉ name := not_mem_of_class (fun c hc => hs c (List.mem_append_left _ hc)) rfl
  by_cases has : name = "as".toList
  · subst has
    cases renamed with
    | none =>
      change colonForAs.everywhere none 0 (" as".toList ++ tail) = " as".toList ++ tail ↔
        ("as".toList = "as".toList → (none : Option (List Char)) = none ∧ tail = [])
      rcases htail with rfl | rfl <;> decide
    | some renamed =>
      have hmatch (before : Option Char) : colonForAs before (" as ".toList ++
          ("as ".toList ++ (renamed ++ tail))) =
            some (": ".toList, "as ".toList ++ (renamed ++ tail)) := rfl
      have hsplit : ' ' :: Specifier.written " as " ⟨"as".toList, some renamed, hs⟩ ++ tail =
          " as ".toList ++ ("as ".toList ++ (renamed ++ tail)) := by
        simp [Specifier.written]
      rw [hsplit, Replacer.everywhere_of_match (hmatch none) (by decide)]
      simp
  · have hend : Absent " as ".toList tail [] := by
      have hletter : 'a' ∈ " as ".toList := by decide
      rcases htail with rfl | rfl <;> exact absent_of_not_mem hletter (by decide)
    have hcopied {part : List Char} (h : Absent " as ".toList part tail) (before : Option Char) :
        colonForAs.everywhere before 0 (part ++ tail) = part ++ tail := by
      rw [(silent_colonForAs h).everywhere, ← List.append_nil tail,
        (silent_colonForAs hend).everywhere, Replacer.everywhere_nil]
    have hblank : tail = [] ∨ tail.head? = some ' ' := htail.imp_right fun h => by rw [h]; rfl
    refine iff_of_true ?_ fun h => absurd h has
    cases renamed with
    | none => exact hcopied (absent_as hname has hblank) none
    | some renamed =>
      have hrenamed : ' ' ∉ renamed :=
        not_mem_of_class (fun c hc => hs c (List.mem_append_right _ hc)) rfl
      have hmatch (before : Option Char) : colonForAs before (" as ".toList ++ (renamed ++ tail)) =
          some (": ".toList, renamed ++ tail) := rfl
      have hsilent : colonForAs.Silent (' ' :: name) (" as ".toList ++ (renamed ++ tail)) :=
        silent_colonForAs (absent_as hname has (.inr rfl))
      have hsplit (between : String) :
          ' ' :: Specifier.written between ⟨name, some renamed, hs⟩ ++ tail =
            ' ' :: name ++ (between.toList ++ (renamed ++ tail)) := by
        simp [Specifier.written]
      rw [hsplit, hsplit, hsilent.everywhere, Replacer.everywhere_of_match (hmatch _) (by decide),
        hcopied (absent_of_first hrenamed _ _)]

theorem legible_singleton_iff : Legible [s] ↔ s.name ≠ "as".toList := by
  simp only [Legible, List.mem_singleton, forall_eq, List.getLast?_singleton, Option.mem_some,
    and_iff_right_iff_imp, forall_eq']
  exact fun h has => absurd has h

theorem legible_cons_cons_iff : Legible (s :: t :: specifiers) ↔
    (s.name = "as".toList → s.renamed = none) ∧ Legible (t :: specifiers) := by
  rw [Legible, Legible, List.forall_mem_cons, List.getLast?_cons_cons, and_assoc]

/-- The names are as they were imported exactly if no name `as` comes between two blanks. -/
theorem replaceEvery_bindings_iff (hne : specifiers ≠ []) :
    replaceEvery " as ".toList ": ".toList (bindings " as " specifiers) =
      bindings ": " specifiers ↔ Legible specifiers := by
  change colonForAs.everywhere none 0 _ = _ ↔ _
  induction specifiers with
  | nil => exact absurd rfl hne
  | cons s specifiers ih =>
    have hstops : colonForAs.StopsAt ',' := colonForAs_stopsAt (by decide) (by decide)
    cases specifiers with
    | nil =>
      rw [bindings_singleton, bindings_singleton, everywhere_colonForAs_iff s (.inr rfl),
        legible_singleton_iff]
      simp
    | cons t specifiers =>
      have hcomma {between : String} (hbetween : ',' ∉ between.toList) :
          ',' ∉ ' ' :: s.written between := by
        have hletters : ',' ∉ s.letters := not_mem_of_class s.names_class rfl
        simp [mem_written, hletters, hbetween]
      have hfirst := everywhere_colonForAs_iff s (.inl rfl)
      rw [List.append_nil, List.append_nil] at hfirst
      rw [bindings_cons_cons, bindings_cons_cons, legible_cons_cons_iff,
        hstops.everywhere_append _ _ _ (Nat.zero_le _),
        append_stop_inj (hstops.not_mem_everywhere (hcomma (by decide))) (hcomma (by decide)),
        hfirst, ih (by simp)]
      simp

end Renaming

section Exports

variable {next : String} {rest path : List Char} {s : Specifier} {specifiers : List Specifier}

/-- What comes after the word `export` where a dynamic module rewrites it. -/
def rewrittenExports : List String := "default " :: declarationWords

theorem absent_export_block (hnext : next ∈ rewrittenExports) (block : List Char)
    (hblock : block ∈ [[' '], [','], " as ".toList, "import \x7b".toList, "\x7d from ".toList])
    (rest : List Char) : Absent (exportHead next) block rest := by
  have happart : ∀ next ∈ rewrittenExports,
      ∀ block ∈ [[' '], [','], " as ".toList, "import \x7b".toList, "\x7d from ".toList],
        ∀ tail ∈ block.tails, tail ≠ [] →
          ¬tail <+: exportHead next ∧ ¬exportHead next <+: tail := by decide
  exact absent_of_block (happart next hnext block hblock) rest

theorem absent_written (hnext : next ∈ rewrittenExports) (s : Specifier)
    (hrest : ∀ name, ' ' ∉ name → Absent (exportHead next) name rest) :
    Absent (exportHead next) (' ' :: s.written " as ") rest := by
  have hblank {part : List Char} (h : Absent (exportHead next) part rest) :
      Absent (exportHead next) (' ' :: part) rest :=
    (absent_export_block hnext [' '] (by decide) _).append h
  have hletters : ' ' ∉ s.letters := not_mem_of_class s.names_class rfl
  obtain ⟨name, _ | renamed, hs⟩ := s
  · exact hblank (hrest name fun h => hletters (List.mem_append_left _ h))
  · have hname : ' ' ∉ name := fun h => hletters (List.mem_append_left _ h)
    have hrenamed : ' ' ∉ renamed := fun h => hletters (List.mem_append_right _ h)
    have has : ∀ next ∈ rewrittenExports,
        ¬next.toList <+: "as ".toList ∧ ¬"as ".toList <+: next.toList := by decide
    have hpast : Absent (exportHead next) name (" as ".toList ++ renamed ++ rest) :=
      absent_of_past (by decide) hname ("as ".toList ++ (renamed ++ rest))
        fun _ => not_prefix_append (has next hnext) _
    exact hblank (hpast.append
      ((absent_export_block hnext " as ".toList (by decide) _).append (hrest renamed hrenamed)))

/-- No name in a list of names is taken for the start of an export. -/
theorem absent_bindings (hnext : next ∈ rewrittenExports) (hne : specifiers ≠ [])
    (rest : List Char) :
    Absent (exportHead next) (bindings " as " specifiers) ('\x7d' :: rest) := by
  induction specifiers with
  | nil => exact absurd rfl hne
  | cons s specifiers ih =>
    cases specifiers with
    | nil =>
      have hbrace : ∀ next ∈ rewrittenExports,
          ¬next.toList <+: ['\x7d'] ∧ ¬['\x7d'] <+: next.toList := by decide
      rw [bindings_singleton]
      refine (absent_written hnext s fun name hname => ?_).append
        (absent_export_block hnext [' '] (by decide) _)
      exact absent_of_past (by decide) hname ('\x7d' :: rest) fun _ =>
        not_prefix_append (hbrace next hnext) rest
    | cons t specifiers =>
      have hcomma : ∀ next ∈ rewrittenExports, ',' ∉ exportHead next := by decide
      rw [bindings_cons_cons]
      refine (absent_written hnext s fun name hname => ?_).append
        ((absent_export_block hnext [','] (by decide) _).append (ih (by simp)))
      exact absent_of_stop (blank_mem_exportHead next) hname (hcomma next hnext)

/-- The rewrite of exported declarations leaves an import as it is, but for its path. -/
theorem everywhere_bareDeclaration_namedImport {quote : Char} (hquote : isQuote quote)
    (hne : specifiers ≠ []) (path : List Char) (ended : Bool) :
    bareDeclaration.everywhere none 0 (namedImport specifiers quote path ended) =
      namedImport specifiers quote (bareDeclaration.everywhere none 0 path) ended := by
  have hstops : bareDeclaration.StopsAt quote := bareDeclaration_stopsAt_quote hquote
  have hend : bareDeclaration.everywhere none 0 (semicolon ended) = semicolon ended := by
    cases ended <;> rfl
  have hsilent (rest : List Char) :
      bareDeclaration.Silent (importHead (bindings " as " specifiers)) rest := by
    refine silent_bareDeclaration fun next hnext => ?_
    have hmem : next ∈ rewrittenExports := List.mem_cons_of_mem _ hnext
    exact (absent_export_block hmem "import \x7b".toList (by decide) _).append
      ((absent_bindings hmem hne _).append
        (absent_export_block hmem "\x7d from ".toList (by decide) _))
  have hopening (before : Option Char) :=
    hstops.everywhere_append before [] (path ++ quote :: semicolon ended) (Nat.zero_le _)
  rw [namedImport, namesImport_eq, (hsilent _).everywhere, ← List.nil_append (quote :: _), hopening,
    hstops.everywhere_append _ _ _ (Nat.zero_le _), hend, namedImport, namesImport_eq]
  rfl

/-- A path without blanks exports nothing. -/
theorem everywhere_bareDeclaration_of_path (h : ∀ c ∈ path, isPathChar c) :
    bareDeclaration.everywhere none 0 path = path := by
  have hblank : ' ' ∉ path := not_mem_of_class h (by decide)
  have hsilent : bareDeclaration.Silent path [] := silent_bareDeclaration fun next _ =>
    absent_of_not_mem (blank_mem_exportHead next) hblank
  exact hsilent.everywhere_self none

end Exports

section Passes

variable {names path quoted rest : List Char} {quote : Char} {ended : Bool}

theorem countP_eq_zero_of_unquoted {text : List Char} (h : Unquoted text) :
    text.countP isQuote = 0 :=
  List.countP_eq_zero.mpr fun c hc => by rw [h c hc]; exact Bool.false_ne_true

theorem countP_semicolon (ended : Bool) : (semicolon ended).countP isQuote = 0 := by
  cases ended <;> rfl

/-- No image is imported where names are. -/
theorem everywhere_assetConstant_namesImport (hquote : isQuote quote) (hnames : Unquoted names)
    (hpath : Unquoted path) (ended : Bool) :
    assetConstant.everywhere none 0 (namesImport names (quote :: (path ++ [quote])) ended) =
      namesImport names (quote :: (path ++ [quote])) ended := by
  have hsilent :
      assetConstant.Silent (namesImport names (quote :: (path ++ [quote])) ended) [] := by
    intro tail htail hne before
    cases hrule : assetConstant before (tail ++ []) with
    | none => rfl
    | some pair =>
      obtain ⟨name, quoted, closed, h, hsplit, -, -⟩ := assetConstant_eq_some_iff.mp hrule
      obtain ⟨path', ⟨opening, closing, hopening, hclosing, rfl, -, -⟩, -⟩ := h.path
      have hhead : Unquoted (assetHead name) := unquoted_of_isEnd (assetHead_class h)
      rw [List.append_nil, assetImport_split, List.cons_append] at hsplit
      rw [namesImport_eq] at htail
      rcases suffix_append_cases htail with hlater | ⟨middle, hmiddle, -, heq⟩
      · rcases List.suffix_cons_iff.mp hlater with heq | hlater
        · rw [hsplit] at heq
          obtain ⟨rfl, -⟩ := List.cons.inj heq
          cases hquote
        · -- only one quote is left after the first one
          have hleft : (path ++ quote :: semicolon ended).countP isQuote = 1 := by
            rw [List.countP_append, List.countP_cons, countP_eq_zero_of_unquoted hpath,
              countP_semicolon, if_pos hquote]
          have hread := hlater.sublist.countP_le (p := isQuote)
          rw [hleft, hsplit] at hread
          simp only [List.countP_append, List.countP_cons, isQuote_iff.mpr hopening,
            isQuote_iff.mpr hclosing, if_true] at hread
          omega
      · rw [hsplit] at heq
        obtain ⟨rfl, -, -⟩ := append_cons_inj_of_first hhead
          (fun c hc => unquoted_importHead hnames c (hmiddle.subset hc))
          (isQuote_iff.mpr hopening) hquote heq
        exact absurd hmiddle (not_suffix_importHead h names)
  exact hsilent.everywhere_self none

theorem everywhere_requiredNames_of_isNames (h : IsNames names quoted) (ended : Bool) :
    requiredNames.everywhere none 0 (namesImport names quoted ended) = namesText names quoted := by
  have hmatch : requiredNames none (namesImport names quoted ended ++ []) =
      some (namesText names quoted, []) :=
    requiredNames_eq_some_iff.mpr ⟨names, quoted, ended, h, rfl, nofun, rfl⟩
  have hne : namesImport names quoted ended ≠ [] := nofun
  have hresult := Replacer.everywhere_of_match hmatch hne
  rwa [List.append_nil, Replacer.everywhere_nil, List.append_nil] at hresult

/-- The names and the path of an import that is read are of the characters that are known. -/
theorem class_of_requiredNames {pair : List Char × List Char} (hquote : isQuote quote)
    (hnames : Unquoted names) (hpath : Unquoted path)
    (h : requiredNames none (namesImport names (quote :: (path ++ [quote])) ended) = some pair) :
    (∀ c ∈ names, isSpecifierChar c) ∧ ∀ c ∈ path, isPathChar c := by
  obtain ⟨names', quoted', ended', h', hsplit, -, -⟩ := requiredNames_eq_some_iff.mp h
  obtain ⟨path', opening, closing, hopening, hclosing, rfl, -, hclass⟩ := h'.path
  have hnames' : Unquoted names' := unquoted_of_class h'.names_class (by decide)
  have hpath' : Unquoted path' := unquoted_of_class hclass (by decide)
  rw [namesImport_eq, namesImport_eq, List.append_assoc, List.cons_append, List.append_assoc,
    List.cons_append] at hsplit
  obtain ⟨hhead, -, hrest⟩ := append_cons_inj_of_first (unquoted_importHead hnames)
    (unquoted_importHead hnames') hquote (isQuote_iff.mpr hopening) hsplit
  obtain ⟨hsame, -, -⟩ := append_cons_inj_of_first hpath hpath' hquote
    (isQuote_iff.mpr hclosing) hrest
  unfold importHead at hhead
  rw [List.append_cancel_right (List.append_cancel_left hhead), hsame]
  exact ⟨h'.names_class, hclass⟩

end Passes

section Results

variable {path : List Char} {quote : Char} {specifiers : List Specifier}

/-- The constant for a list of names has no default export. -/
theorem not_infix_namesText (hne : specifiers ≠ []) (hquote : isQuote quote)
    (hpath : ∀ c ∈ path, isPathChar c) :
    ¬exportStart.toList <:+:
      namesText (bindings " as " specifiers) (quote :: (path ++ [quote])) := by
  have hnames : ¬exportStart.toList <:+:
      replaceEvery " as ".toList ": ".toList (bindings " as " specifiers) := by
    have hdefault : "default " ∈ rewrittenExports := by decide
    have habsent : Absent exportStart.toList (bindings " as " specifiers) ['\x7d'] :=
      absent_bindings hdefault hne []
    rw [replaceEvery_eq]
    refine fun hoccurs => habsent.not_infix (by decide)
      (Replacer.infix_of_everywhere (fun hrule => ?_) hoccurs)
    obtain ⟨-, rfl⟩ := Replacer.fixed_eq_some_iff.mp hrule
    exact ⟨⟨':', [' '], rfl, by decide⟩, absent_of_block (by decide)⟩
  have hquoted : ¬exportStart.toList <:+: quote :: (path ++ [quote]) ++ ");".toList := by
    have hblank : ' ' ∉ quote :: (path ++ [quote]) ++ ");".toList := by
      have hpath : ' ' ∉ path := not_mem_of_class hpath (by decide)
      rcases isQuote_iff.mp hquote with rfl | rfl <;> simp [hpath]
    exact fun hoccurs => hblank (hoccurs.subset (by decide))
  have hfront : Clear exportStart.toList "const \x7b".toList := by decide
  have hback : Clear exportStart.toList "\x7d = require(".toList := by decide
  have hnil : ¬exportStart.toList <:+: [] := by decide
  unfold namesText
  rw [← List.nil_append ("const \x7b".toList ++ _), hfront.infix_iff, hback.infix_iff]
  tauto

theorem unquoted_bindings {between : String} (hbetween : Unquoted between.toList)
    (hne : specifiers ≠ []) : Unquoted (bindings between specifiers) := by
  intro c hc
  rcases mem_bindings hne hc with rfl | rfl | hc | ⟨s, hs, hc⟩
  · rfl
  · rfl
  · exact hbetween c hc
  · have hname := s.names_class c hc
    rw [mayName, Bool.not_eq_true', Bool.or_eq_false_iff] at hname
    exact hname.2

/-- Of the rewrites of a line, only that of exported declarations, in its path, and that of lists of
names change an import of names. -/
theorem dynamicLine_namedImport (hne : specifiers ≠ []) (hquote : isQuote quote)
    (hpath : Unquoted path) (ended : Bool) :
    dynamicLine (namedImport specifiers quote path ended) = requiredNames.everywhere none 0
      (namedImport specifiers quote (bareDeclaration.everywhere none 0 path) ended) := by
  have hnames : Unquoted (bindings " as " specifiers) := unquoted_bindings (by decide) hne
  have hpath' := unquoted_everywhere (fun _ => bareDeclaration_stopsAt_quote) hpath
  rw [dynamicLine, everywhere_bareDeclaration_namedImport hquote hne, namedImport,
    everywhere_assetConstant_namesImport hquote hnames hpath']

theorem isNames_bindings (hnames : ∀ c ∈ bindings " as " specifiers, isSpecifierChar c)
    (hquote : isQuote quote) (hpath : path ≠ []) (hclass : ∀ c ∈ path, isPathChar c) :
    IsNames (bindings " as " specifiers) (quote :: (path ++ [quote])) :=
  ⟨nofun, hnames, path, quote, quote, isQuote_iff.mp hquote, isQuote_iff.mp hquote, rfl, hpath,
    hclass⟩

theorem class_bindings_iff (hne : specifiers ≠ []) :
    (∀ c ∈ bindings " as " specifiers, isSpecifierChar c) ↔
      ∀ s ∈ specifiers, ∀ c ∈ s.letters, isSpecifierChar c := by
  refine ⟨fun h s hs c hc => h c (mem_bindings_of_mem_letters hs hc), fun h c hc => ?_⟩
  have has : ∀ c ∈ " as ".toList, isSpecifierChar c := by decide
  rcases mem_bindings hne hc with rfl | rfl | hc | ⟨s, hs, hc⟩
  · decide
  · decide
  · exact has c hc
  · exact h s hs c hc

/-- With names and a path of known characters an import becomes a constant, whatever the names. -/
theorem asDynamic_namedImport (hne : specifiers ≠ []) (hquote : isQuote quote)
    (hpath : path ≠ []) (hnames : ∀ s ∈ specifiers, ∀ c ∈ s.letters, isSpecifierChar c)
    (hclass : ∀ c ∈ path, isPathChar c) (ended : Bool) :
    asDynamic (namedImport specifiers quote path ended) =
      namesText (bindings " as " specifiers) (quote :: (path ++ [quote])) := by
  have hunquoted : Unquoted path := unquoted_of_class hclass (by decide)
  have hread := isNames_bindings ((class_bindings_iff hne).mpr hnames) hquote hpath hclass
  have hline := dynamicLine_namedImport hne hquote hunquoted ended
  rw [everywhere_bareDeclaration_of_path hclass, namedImport,
    everywhere_requiredNames_of_isNames hread] at hline
  change replaceFirst _ _ (dynamicLine (namesImport _ _ _)) = _
  rw [hline, replaceFirst_of_not_infix (not_infix_namesText hne hquote hclass)]

theorem colonForAs_stopsAt_quote {c : Char} (h : isQuote c) : colonForAs.StopsAt c := by
  rcases isQuote_iff.mp h with rfl | rfl
  · exact colonForAs_stopsAt (by decide) (by decide)
  · exact colonForAs_stopsAt (by decide) (by decide)

/-- A constant with the same names requires the same path. -/
theorem path_of_namesText {names path' : List Char} (hquote : isQuote quote)
    (hnames : Unquoted names) (hnames' : Unquoted (bindings ": " specifiers))
    (hpath : Unquoted path) (hpath' : Unquoted path')
    (h : namesText names (quote :: (path' ++ [quote])) = requiredBindings specifiers quote path) :
    path' = path := by
  have htext (names path : List Char) : "const \x7b".toList ++ (names ++
      ("\x7d = require(".toList ++ (quote :: (path ++ [quote]) ++ ");".toList))) =
        "const \x7b".toList ++ (names ++ "\x7d = require(".toList) ++
          quote :: (path ++ quote :: ");".toList) := by
    simp only [List.append_assoc, List.cons_append, List.nil_append]
  unfold namesText requiredBindings at h
  rw [htext, htext] at h
  have hreplaced : Unquoted (replaceEvery " as ".toList ": ".toList names) :=
    unquoted_everywhere (fun _ => colonForAs_stopsAt_quote) hnames
  obtain ⟨-, -, hrest⟩ := append_cons_inj_of_first (hreplaced.around (by decide) (by decide))
    (hnames'.around (by decide) (by decide)) hquote hquote h
  exact (append_cons_inj_of_first hpath' hpath hquote hquote hrest).1

/-- An import that is not read stays an import. -/
theorem starts_import_of_not_required {names quoted : List Char} {ended : Bool}
    (h : requiredNames none (namesImport names quoted ended) = none) :
    ∃ rest, replaceFirst exportStart.toList assignedExport.toList
      (requiredNames.everywhere none 0 (namesImport names quoted ended)) = 'i' :: rest := by
  have hcons : namesImport names quoted ended = 'i' :: (namesImport names quoted ended).tail := rfl
  have hafter (rest : List Char) : after? exportStart.toList ('i' :: rest) = none := rfl
  rw [hcons] at h ⊢
  rw [Replacer.everywhere, h]
  dsimp only
  rw [replaceFirst, hafter]
  exact ⟨_, rfl⟩

theorem class_of_asDynamic {ended : Bool} (hne : specifiers ≠ []) (hquote : isQuote quote)
    (hpath : path ≠ []) (hunquoted : Unquoted path)
    (hresult : asDynamic (namedImport specifiers quote path ended) =
      requiredBindings specifiers quote path) :
    (∀ s ∈ specifiers, ∀ c ∈ s.letters, isSpecifierChar c) ∧ ∀ c ∈ path, isPathChar c := by
  have hnames : Unquoted (bindings " as " specifiers) := unquoted_bindings (by decide) hne
  have hpath' := unquoted_everywhere (fun _ => bareDeclaration_stopsAt_quote) hunquoted
  change replaceFirst _ _ (dynamicLine (namedImport _ _ _ _)) = _ at hresult
  rw [dynamicLine_namedImport hne hquote hunquoted] at hresult
  cases hrule : requiredNames none (namedImport specifiers quote
      (bareDeclaration.everywhere none 0 path) ended) with
  | none =>
    obtain ⟨rest, hrest⟩ := starts_import_of_not_required hrule
    rw [namedImport, hrest] at hresult
    have hfirst := (List.cons.inj hresult).1
    exact absurd hfirst (by decide)
  | some pair =>
    obtain ⟨hspecifiers, hclass⟩ := class_of_requiredNames hquote hnames hpath' hrule
    have hread := isNames_bindings hspecifiers hquote
      (bareDeclaration_writes.everywhere_ne_nil none hpath) hclass
    rw [namedImport, everywhere_requiredNames_of_isNames hread,
      replaceFirst_of_not_infix (not_infix_namesText hne hquote hclass)] at hresult
    have hnames' : Unquoted (bindings ": " specifiers) := unquoted_bindings (by decide) hne
    rw [path_of_namesText hquote hnames hnames' hunquoted hpath' hresult] at hclass
    exact ⟨(class_bindings_iff hne).mp hspecifiers, hclass⟩

/-- The import of some names becomes a constant with the same names exactly if all characters of
the names and the path are known and no name `as` comes between two blanks. -/
theorem requires_same_names_iff (specifiers : List Specifier) (quote : Char) (path : List Char)
    (ended : Bool) (hne : specifiers ≠ []) (hquote : isQuote quote) (hpath : path ≠ [])
    (hunquoted : Unquoted path) :
    asDynamic (namedImport specifiers quote path ended) = requiredBindings specifiers quote path ↔
      (∀ s ∈ specifiers, ∀ c ∈ s.letters, isSpecifierChar c) ∧ (∀ c ∈ path, isPathChar c) ∧
        Legible specifiers := by
  have hsame : namesText (bindings " as " specifiers) (quote :: (path ++ [quote])) =
      requiredBindings specifiers quote path ↔ Legible specifiers := by
    rw [← replaceEvery_bindings_iff hne]
    unfold namesText requiredBindings
    rw [List.append_right_inj, List.append_left_inj]
  constructor
  · intro hresult
    obtain ⟨hnames, hclass⟩ := class_of_asDynamic hne hquote hpath hunquoted hresult
    rw [asDynamic_namedImport hne hquote hpath hnames hclass, hsame] at hresult
    exact ⟨hnames, hclass, hresult⟩
  · rintro ⟨hnames, hclass, hlegible⟩
    rw [asDynamic_namedImport hne hquote hpath hnames hclass, hsame]
    exact hlegible

/-- A list of names, one of them under another name. -/
theorem requires_same_names_iff_of_renamed :
    let specifiers : List Specifier :=
      [⟨"ref".toList, none, by decide⟩, ⟨"h".toList, some "_h".toList, by decide⟩]
    specifiers ≠ [] ∧ isQuote '"' ∧ "vue".toList ≠ [] ∧ Unquoted "vue".toList ∧
    asDynamic "import \x7b ref, h as _h \x7d from \"vue\";".toList =
      "const \x7b ref, h: _h \x7d = require(\"vue\");".toList := by
  intro specifiers
  have hne : specifiers ≠ [] := by simp [specifiers]
  have hpath : Unquoted "vue".toList := by decide
  have hlegible : Legible specifiers := by
    unfold Legible
    decide +kernel
  have hresult := (requires_same_names_iff specifiers '"' "vue".toList true hne rfl (by decide)
    hpath).mpr ⟨by decide +kernel, by decide +kernel, hlegible⟩
  exact ⟨hne, rfl, by decide, hpath, hresult⟩

/-- A name `as` at the end of the list is lost, and a path with a colon is not read. -/
theorem name_as_lost :
    let named : Specifier := ⟨"as".toList, none, by decide⟩
    let other : Specifier := ⟨"a".toList, none, by decide⟩
    asDynamic (namedImport [named] '\'' "m".toList false) =
      "const \x7b: \x7d = require('m');".toList ∧
    requiredBindings [named] '\'' "m".toList = "const \x7b as \x7d = require('m');".toList ∧
    asDynamic (namedImport [other] '\'' "node:fs".toList false) =
      "import \x7b a \x7d from 'node:fs'".toList ∧
    requiredBindings [other] '\'' "node:fs".toList =
      "const \x7b a \x7d = require('node:fs');".toList := by
  decide +kernel

end Results

end ComponentCompiler.Module
