import ComponentCompiler.Module.Joining
import ComponentCompiler.Proofs.Text.Words
import Mathlib.Data.List.Sublists

/-!
# The bindings that a template declares and exports

The lines after the code of a template export what the code declares and does not export itself.
What counts as a declaration and as an export is said here about the text, without a scanner
(`Declaration`, `Exporting`): a function, plain or async, or a variable, after `export` or in the
braces of a list. The scanners know fewer forms of both (`Recognised`), and the lines follow the
scanners (`exports_recognised`). They are right about a binding exactly if an export of it is
recognised wherever its declaration is, and its declaration wherever it is not exported.
-/

namespace ComponentCompiler.Module

open Text

variable {name : String} {s : List Char} {code : String}

/-! ### Declarations and exports -/

/-- The names by which a module refers to the functions of its template. -/
def templateNames : List String := ["render", "staticRenderFns"]

/-- A name ends before a text. -/
def EndsName (rest : List Char) : Prop :=
  ∀ c ∈ rest.head?, isBlank c ∨ isWord c = false ∧ c ≠ '$'

/-- A function with a name. -/
def FunctionNamed (name : String) : List Char → Prop :=
  Parted "function" (Spaced name (Starts '('))

/-- A variable with a name. -/
def VariableNamed (name : String) (s : List Char) : Prop :=
  ∃ word ∈ variableWords, Parted word (fun s => ∃ rest, s = name.toList ++ rest ∧ EndsName rest) s

/-- A variable with a name and a value. -/
def VariableSet (name : String) (s : List Char) : Prop :=
  ∃ word ∈ variableWords, Parted word (Spaced name (Starts '=')) s

/-- The declaration of a name. -/
inductive Declaration (name : String) (s : List Char) : Prop
  | ofFunction (h : FunctionNamed name s)
  | ofAsync (h : Parted "async" (FunctionNamed name) s)
  | ofVariable (h : VariableNamed name s)

/-- The name under which an item of a list is exported. -/
def lastWord (item : List Char) : List Char :=
  ((trimEnd item).reverse.takeWhile (!isBlank ·)).reverse

/-- A list in braces that exports a name. -/
def Lists (name : String) (s : List Char) : Prop :=
  ∃ inner rest, s = '\x7b' :: (inner ++ '\x7d' :: rest) ∧ '\x7d' ∉ inner ∧
    name.toList ∈ (pieces ',' inner).map lastWord

/-- An export of a name, by its declaration or in a list. -/
inductive Exporting (name : String) (s : List Char) : Prop
  | declaration (h : Parted "export" (Declaration name) s)
  | list (h : Spaced "export" (Lists name) s)

def Declares (name code : String) : Prop := Somewhere (Declaration name) code.toList

def Exports (name code : String) : Prop := Somewhere (Exporting name) code.toList

/-- The declarations that the scanners recognise. -/
inductive Recognised (name : String) (s : List Char) : Prop
  | ofFunction (hname : name = "render") (h : FunctionNamed name s)
  | ofVariable (h : VariableSet name s)

def Recognises (name code : String) : Prop := Somewhere (Recognised name) code.toList

def RecognisesExport (name code : String) : Prop :=
  Somewhere (Parted "export" (Recognised name)) code.toList

theorem VariableSet.named (h : VariableSet name s) : VariableNamed name s := by
  obtain ⟨word, hword, h⟩ := h
  refine ⟨word, hword, h.mono ?_⟩
  rintro _ ⟨gap, rest, rfl, hgap, hsign⟩
  refine ⟨gap ++ rest, rfl, fun c hc => ?_⟩
  cases gap with
  | nil =>
      obtain rfl : '=' = c := Option.some.inj (hsign.symm.trans hc)
      exact .inr ⟨by decide, by decide⟩
  | cons d gap =>
      obtain rfl : d = c := Option.some.inj hc
      exact .inl (List.all_eq_true.mp hgap d List.mem_cons_self)

theorem Recognised.declaration (h : Recognised name s) : Declaration name s := by
  cases h with
  | ofFunction hname h => exact .ofFunction h
  | ofVariable h => exact .ofVariable h.named

theorem Recognises.declares (h : Recognises name code) : Declares name code :=
  h.mono fun _ => Recognised.declaration

theorem RecognisesExport.exports (h : RecognisesExport name code) : Exports name code :=
  h.mono fun _ h => .declaration (h.mono fun _ => Recognised.declaration)

/-! ### What the scanners recognise -/

/-- A word and a sign after any blanks. -/
theorem wordThen?_isSome_iff {word sign : String} {c : Char} (hsign : sign.toList = [c])
    (hc : isBlank c = false) :
    (wordThen? word (word? sign) s).isSome ↔ Spaced word (Starts c) s := by
  rw [spaced_iff (solid_starts hc), wordThen?]
  cases word? word s with
  | none => simp
  | some rest => simp [word?_isSome_iff hsign]

section Named

variable (hname : name.toList.head?.any fun c => !isBlank c)
include hname

theorem scanFunction_isSome_iff : (scanFunction name s).isSome ↔ FunctionNamed name s :=
  parted_scan_iff (solid_of_word hname fun _ => Spaced.starts) fun _ =>
    wordThen?_isSome_iff (by decide) (by decide)

theorem scanVariable_isSome_iff : (scanVariable name s).isSome ↔ VariableSet name s := by
  have hscan (word : String) : ((word? word s).bind fun rest => (blanks? rest).bind
      (wordThen? name (word? "="))).isSome ↔ Parted word (Spaced name (Starts '=')) s :=
    parted_scan_iff (solid_of_word hname fun _ => Spaced.starts) fun _ =>
      wordThen?_isSome_iff (by decide) (by decide)
  have hfirst : ∀ word ∈ variableWords, word.toList <+: s →
      oneOf? variableWords s = word? word s := by
    rintro word hword ⟨rest, rfl⟩
    simp only [variableWords, List.mem_cons, List.not_mem_nil, or_false] at hword
    rcases hword with rfl | rfl | rfl <;> simp [oneOf?, variableWords, word?, after?]
  constructor
  · intro h
    obtain ⟨rest, hrest, -⟩ := Option.bind_eq_some_iff.mp (Option.some_get h).symm
    obtain ⟨word, hword, hsplit⟩ := eq_of_oneOf? hrest
    refine ⟨word, hword, (hscan word).mp ?_⟩
    rw [← hfirst word hword ⟨rest, hsplit.symm⟩]
    exact h
  · rintro ⟨word, hword, h⟩
    have hword' := hfirst word hword h.starts
    rw [← hscan word, ← hword'] at h
    exact h

end Named

/-- What recognises the declarations of a binding. -/
def scanDeclared (name : String) : List Char → Option (List Char) :=
  if name = "render" then scanRenderDeclared else scanStaticDeclared

theorem scanDeclared_isSome_iff (hname : name ∈ templateNames) :
    (scanDeclared name s).isSome ↔ Recognised name s := by
  simp only [templateNames, List.mem_cons, List.not_mem_nil, or_false] at hname
  rcases hname with rfl | rfl
  · have hscan : (scanDeclared "render" s).isSome ↔
        (scanFunction "render" s).isSome ∨ (scanVariable "render" s).isSome := by
      rw [scanDeclared, if_pos rfl, scanRenderDeclared]
      cases scanFunction "render" s <;> simp
    rw [hscan, scanFunction_isSome_iff (by decide), scanVariable_isSome_iff (by decide)]
    constructor
    · rintro (h | h)
      · exact .ofFunction rfl h
      · exact .ofVariable h
    · rintro (⟨-, h⟩ | h)
      · exact .inl h
      · exact .inr h
  · rw [scanDeclared, if_neg (by decide), scanStaticDeclared, scanVariable_isSome_iff (by decide)]
    constructor
    · exact .ofVariable
    · rintro (⟨hrender, -⟩ | h)
      · exact absurd hrender (by decide)
      · exact h

theorem occurs_declared_iff {scan : List Char → Option (List Char)} {P : List Char → Prop}
    (h : ∀ s, (scan s).isSome ↔ P s) (hnil : ¬P []) :
    occurs (declared scan) code ↔ Somewhere P code.toList := by
  have hplace (before : Option Char) (s : List Char) :
      (declared scan before s).isSome ↔ isWordBoundary before s.head? ∧ P s := by
    rw [← h, declared, boundary?]
    split <;> simp [*]
  rw [occurs, found_iff, Somewhere]
  simp only [hplace, Replacer.lastOf, Option.or_none]
  constructor
  · rintro ⟨front, s, hs, -, hboundary, hP⟩
    exact ⟨front, s, hs, hboundary, hP⟩
  · rintro ⟨front, s, hs, hboundary, hP⟩
    exact ⟨front, s, hs, fun hempty => hnil (hempty ▸ hP), hboundary, hP⟩

/-- The words that a declaration starts with. -/
def declarationStarts : List String := "function" :: "async" :: variableWords

theorem Declaration.starts (h : Declaration name s) :
    ∃ word ∈ declarationStarts, word.toList <+: s := by
  rcases h with h | h | ⟨word, hword, h⟩
  · exact ⟨"function", by decide, h.starts⟩
  · exact ⟨"async", by decide, h.starts⟩
  · exact ⟨word, List.mem_cons_of_mem _ (List.mem_cons_of_mem _ hword), h.starts⟩

theorem solid_of_declaration {P : List Char → Prop} (h : ∀ s, P s → Declaration name s) :
    Solid P := by
  intro s hs
  obtain ⟨word, hword, hstarts⟩ := (h s hs).starts
  have hbold : ∀ word ∈ declarationStarts, word.toList.head?.any fun c => !isBlank c := by decide
  exact solid_of_word (P := (word.toList <+: ·)) (hbold word hword) (fun _ h => h) s hstarts

theorem not_declaration_nil : ¬Declaration name [] := by
  intro h
  obtain ⟨word, hword, hstarts⟩ := h.starts
  have hne : ∀ word ∈ declarationStarts, word.toList ≠ [] := by decide
  exact hne word hword (List.prefix_nil.mp hstarts)

theorem recognises_iff (hname : name ∈ templateNames) :
    occurs (declared (scanDeclared name)) code ↔ Recognises name code :=
  occurs_declared_iff (fun _ => scanDeclared_isSome_iff hname)
    fun h => not_declaration_nil h.declaration

theorem recognisesExport_iff (hname : name ∈ templateNames) :
    occurs (exported (scanDeclared name)) code ↔ RecognisesExport name code := by
  refine occurs_declared_iff (fun _ => parted_scan_iff (solid_of_declaration fun _ =>
    Recognised.declaration) fun _ => scanDeclared_isSome_iff hname) fun h => ?_
  exact absurd (List.prefix_nil.mp h.starts) (by decide)

theorem unexportedNames_eq (code : String) : unexportedNames code = templateNames.filter fun name =>
    occurs (declared (scanDeclared name)) code && !occurs (exported (scanDeclared name)) code := by
  have hother : scanDeclared "staticRenderFns" = scanStaticDeclared := if_neg (by decide)
  rw [unexportedNames, templateNames, List.filter_cons, List.filter_cons, List.filter_nil, hother,
    scanDeclared, if_pos rfl]
  split <;> split <;> rfl

theorem mem_unexportedNames_iff : name ∈ unexportedNames code ↔
    name ∈ templateNames ∧ Recognises name code ∧ ¬RecognisesExport name code := by
  rw [unexportedNames_eq, List.mem_filter]
  refine and_congr_right fun hname => ?_
  rw [Bool.and_eq_true, Bool.not_eq_true', ← Bool.not_eq_true, recognises_iff hname,
    recognisesExport_iff hname]

/-! ### The line that exports -/

/-- A line that exports names. -/
def exportLine (names : List String) : String :=
  "export \x7b " ++ String.intercalate ", " names ++ " \x7d;"

theorem templateLines_static (code : String) (functional : Bool) :
    templateLines code .static functional =
      if unexportedNames code = [] then [] else [exportLine (unexportedNames code)] := by
  rw [templateLines]
  split
  · rename_i hnone
    rw [if_pos hnone]
  · rename_i hsome
    rw [if_neg hsome]
    rfl

theorem Exporting.starts (h : Exporting name s) : "export".toList <+: s := by
  cases h with
  | declaration h => exact h.starts
  | list h => exact h.starts

/-- A text without the word exports nothing. -/
theorem not_exports_of_absent (h : occursIn "export".toList code.toList = false) :
    ¬Exports name code := by
  rintro ⟨front, s, hs, -, hexporting⟩
  have hpart : "export".toList <:+: code.toList := by
    rw [hs]
    exact hexporting.starts.isInfix.trans (List.suffix_append front s).isInfix
  rw [← occursIn_iff, h] at hpart
  cases hpart

/-- A text that starts with the only place for an export. -/
theorem exports_iff_exporting {text : String} (hstart : "export".toList <+: text.toList)
    (honce : ∀ n < text.toList.length + 1, "export".toList <+: text.toList.drop n → n = 0) :
    Exports name text ↔ Exporting name text.toList := by
  constructor
  · rintro ⟨front, s, hs, -, h⟩
    have hdrop : text.toList.drop front.length = s := by rw [hs, List.drop_left]
    have hlength : front.length < text.toList.length + 1 := by
      rw [hs, List.length_append]
      omega
    have hfront := honce front.length hlength (hdrop ▸ h.starts)
    rw [List.length_eq_zero_iff] at hfront
    rwa [hs, hfront, List.nil_append]
  · intro h
    obtain ⟨rest, hrest⟩ := hstart
    have hboundary : isWordBoundary none (some 'e') := by decide
    refine ⟨[], text.toList, rfl, ?_, h⟩
    rw [← hrest]
    exact hboundary

theorem solid_lists : Solid (Lists name) := by
  rintro s ⟨inner, rest, rfl, -⟩ c hc
  obtain rfl : '\x7b' = c := Option.some.inj hc
  decide

/-- The first list in braces tells which names it exports. -/
theorem lists_iff {inner : List Char} (h : '\x7d' ∉ inner) (rest : List Char) :
    Lists name ('\x7b' :: (inner ++ '\x7d' :: rest)) ↔
      name.toList ∈ (pieces ',' inner).map lastWord := by
  constructor
  · rintro ⟨inner', rest', hsplit, hclean, hmem⟩
    obtain ⟨rfl, -⟩ := (append_stop_inj h hclean).mp (List.cons.inj hsplit).2
    exact hmem
  · exact fun hmem => ⟨inner, rest, rfl, h, hmem⟩

/-- An export statement of a list exports the names in it. -/
theorem exporting_list_iff {inner rest : List Char} (h : '\x7d' ∉ inner) :
    Exporting name ("export ".toList ++ '\x7b' :: (inner ++ '\x7d' :: rest)) ↔
      name.toList ∈ (pieces ',' inner).map lastWord := by
  have hblanks : blanks? (' ' :: '\x7b' :: (inner ++ '\x7d' :: rest)) =
      some ('\x7b' :: (inner ++ '\x7d' :: rest)) :=
    blanks?_eq_some_iff.mpr ⟨[' '], rfl, by simp, by decide, by rintro c ⟨⟩; decide⟩
  have hword : word? "export" ("export ".toList ++ '\x7b' :: (inner ++ '\x7d' :: rest)) =
      some (' ' :: '\x7b' :: (inner ++ '\x7d' :: rest)) := rfl
  rw [← lists_iff h rest]
  constructor
  · rintro (hdeclared | hlist)
    · obtain ⟨after, next, hafter, hnext, hdeclaration⟩ :=
        (parted_iff (solid_of_declaration fun _ => id)).mp hdeclared
      rw [hword] at hafter
      obtain rfl := Option.some.inj hafter
      rw [hblanks] at hnext
      obtain rfl := Option.some.inj hnext
      obtain ⟨word, hmem, hstarts⟩ := hdeclaration.starts
      have hother : ∀ word ∈ declarationStarts, word.toList.head?.any (· != '\x7b') := by decide
      have hhead := hother word hmem
      cases hlist : word.toList with
      | nil => simp [hlist] at hhead
      | cons c more =>
          rw [hlist, List.cons_prefix_cons] at hstarts
          simp [hlist, hstarts.1] at hhead
    · obtain ⟨after, hafter, hlists⟩ := (spaced_iff solid_lists).mp hlist
      rw [hword] at hafter
      obtain rfl := Option.some.inj hafter
      exact hlists
  · exact fun hlists => .list ⟨[' '], _, rfl, by decide, hlists⟩

/-- A text that is nothing but the export of a list exports the names in it. -/
theorem exports_list_iff {text : String} {names : List String} {rest : List Char}
    (inner : List Char)
    (htext : text.toList = "export ".toList ++ '\x7b' :: (inner ++ '\x7d' :: rest))
    (hclean : '\x7d' ∉ inner) (hnames : (pieces ',' inner).map lastWord = names.map String.toList)
    (honce : ∀ n < text.toList.length + 1, "export".toList <+: text.toList.drop n → n = 0) :
    Exports name text ↔ name ∈ names := by
  have hstart : "export".toList <+: text.toList :=
    ⟨' ' :: '\x7b' :: (inner ++ '\x7d' :: rest), htext.symm⟩
  rw [exports_iff_exporting hstart honce, htext, exporting_list_iff hclean, hnames]
  simp [String.toList_inj]

theorem exports_exportLine {names : List String} (h : names.Sublist templateNames)
    (hne : names ≠ []) : Exports name (exportLine names) ↔ name ∈ names := by
  have hcases : names ∈ [[], ["render"], ["staticRenderFns"], ["render", "staticRenderFns"]] := by
    rw [← List.mem_sublists] at h
    exact h
  simp only [List.mem_cons, List.not_mem_nil, or_false] at hcases
  rcases hcases with rfl | rfl | rfl | rfl
  · exact absurd rfl hne
  · exact exports_list_iff " render ".toList rfl (by decide) (by decide) (by decide)
  · exact exports_list_iff " staticRenderFns ".toList rfl (by decide) (by decide)
      (by decide)
  · exact exports_list_iff " render, staticRenderFns ".toList rfl (by decide)
      (by decide) (by decide)

theorem exports_templateLines (code : String) (functional : Bool) :
    (∃ line ∈ templateLines code .static functional, Exports name line) ↔
      name ∈ unexportedNames code := by
  have hsublist : (unexportedNames code).Sublist templateNames := by
    rw [unexportedNames_eq]
    exact List.filter_sublist
  rw [templateLines_static]
  split
  · rename_i hnone
    simp [hnone]
  · rename_i hsome
    simp [exports_exportLine hsublist hsome]

/-- The lines after the code of a template in a static module are one statement that exports a list,
or nothing. They export exactly those bindings of which a declaration is recognised in the code, and
no export. For a binding this is what the code declares and does not export itself exactly if, where
it is exported and a declaration is recognised, an export is recognised, and where it is declared
and not exported, a declaration is recognised. -/
theorem exports_recognised (code : String) (functional : Bool) :
    ∃ names : List String, names.Sublist templateNames ∧
      templateLines code .static functional = (if names = [] then [] else [exportLine names]) ∧
      (∀ name, name ∈ names ↔
        name ∈ templateNames ∧ Recognises name code ∧ ¬RecognisesExport name code) ∧
      (∀ name, (∃ line ∈ templateLines code .static functional, Exports name line) ↔
        name ∈ names) ∧
      ∀ name ∈ templateNames, ((name ∈ names ↔ Declares name code ∧ ¬Exports name code) ↔
        (Exports name code → Recognises name code → RecognisesExport name code) ∧
          (¬Exports name code → Declares name code → Recognises name code)) := by
  refine ⟨unexportedNames code, ?_, templateLines_static code functional,
    fun name => mem_unexportedNames_iff, fun name => exports_templateLines code functional,
    fun name hname => ?_⟩
  · rw [unexportedNames_eq]
    exact List.filter_sublist
  · have hdeclares : Recognises name code → Declares name code := Recognises.declares
    have hexports : RecognisesExport name code → Exports name code := RecognisesExport.exports
    rw [mem_unexportedNames_iff, and_iff_right hname]
    by_cases hexport : Exports name code
    · simp only [hexport, not_true_eq_false, and_false, iff_false, true_implies, false_implies,
        and_true, not_and, not_not]
    · have hnone : ¬RecognisesExport name code := fun h => hexport (hexports h)
      simp only [hexport, hnone, not_false_eq_true, and_true, false_implies, true_implies, true_and]
      exact ⟨fun h => h.mpr, fun h => ⟨hdeclares, h⟩⟩

theorem functionNamed_render (rest : List Char) :
    FunctionNamed "render" ("function render(".toList ++ rest) :=
  ⟨" ".toList, "render(".toList ++ rest, rfl, by decide, by decide, [], '(' :: rest, rfl, rfl, rfl⟩

/-- A function that is declared and not exported is exported after the code. -/
theorem exports_recognised_of_plain :
    Declares "render" "function render(h) \x7b\x7d" ∧
      ¬Exports "render" "function render(h) \x7b\x7d" ∧
      ∃ line ∈ templateLines "function render(h) \x7b\x7d" .static false,
        Exports "render" line := by
  have hrecognises : Recognises "render" "function render(h) \x7b\x7d" :=
    ⟨[], "function render(".toList ++ "h) \x7b\x7d".toList, by decide, by decide,
      .ofFunction rfl (functionNamed_render _)⟩
  have hnone : ¬Exports "render" "function render(h) \x7b\x7d" :=
    not_exports_of_absent (by decide)
  obtain ⟨names, -, -, -, hlines, hright⟩ :=
    exports_recognised "function render(h) \x7b\x7d" false
  refine ⟨hrecognises.declares, hnone, (hlines "render").mpr ?_⟩
  have hmem := (hright "render" (by decide)).mpr ⟨fun h => absurd h hnone, fun _ _ => hrecognises⟩
  exact hmem.mpr ⟨hrecognises.declares, hnone⟩

/-- A code that exports its function in a list. -/
def exportedInList : String := "function render() \x7b\x7d\nexport \x7b render \x7d"

/-- A code that exports an asynchronous function. -/
def exportedAsync : String := "export async function render() \x7b\x7d"

/-- A code with a function that is named like the static parts of a template. -/
def staticFunction : String := "function staticRenderFns() \x7b\x7d"

/-- A function that is exported in a list, or that is asynchronous, is exported a second time; a
function that is named like the static parts is not exported at all. -/
theorem exported_again_and_left_out :
    (Declares "render" exportedInList ∧ Exports "render" exportedInList ∧
      templateLines exportedInList .static false = [exportLine ["render"]]) ∧
    (Declares "render" exportedAsync ∧ Exports "render" exportedAsync ∧
      templateLines exportedAsync .static false = [exportLine ["render"]]) ∧
    Exports "render" (exportLine ["render"]) ∧
    (Declares "staticRenderFns" staticFunction ∧ ¬Exports "staticRenderFns" staticFunction ∧
      templateLines staticFunction .static false = []) := by
  have hlist : Exporting "render" "export \x7b render \x7d".toList :=
    .list ⟨" ".toList, "\x7b render \x7d".toList, rfl, by decide, " render ".toList, [], rfl,
      by decide, by decide⟩
  have hasync : Declaration "render" ("async ".toList ++ "function render() \x7b\x7d".toList) :=
    .ofAsync ⟨" ".toList, _, rfl, by decide, by decide, functionNamed_render ") \x7b\x7d".toList⟩
  have hstatic : Declaration "staticRenderFns" staticFunction.toList :=
    .ofFunction ⟨" ".toList, "staticRenderFns() \x7b\x7d".toList, rfl, by decide, by decide, [],
      "() \x7b\x7d".toList, rfl, rfl, rfl⟩
  refine ⟨⟨?_, ?_, by decide +kernel⟩, ⟨?_, ?_, by decide +kernel⟩, ?_, ?_, ?_,
    by decide +kernel⟩
  · exact ⟨[], "function render(".toList ++ ") \x7b\x7d\nexport \x7b render \x7d".toList,
      by decide, by decide, .ofFunction (functionNamed_render _)⟩
  · exact ⟨"function render() \x7b\x7d\n".toList, _, by decide, by decide, hlist⟩
  · exact ⟨"export ".toList, _, by decide, by decide, hasync⟩
  · exact ⟨[], "export ".toList ++ ("async ".toList ++ "function render() \x7b\x7d".toList),
      by decide, by decide, .declaration ⟨" ".toList, _, rfl, by decide, by decide, hasync⟩⟩
  · exact (exports_exportLine (by decide) (by decide)).mpr (by decide)
  · exact ⟨[], _, rfl, by decide, hstatic⟩
  · exact not_exports_of_absent (by decide)

end ComponentCompiler.Module
