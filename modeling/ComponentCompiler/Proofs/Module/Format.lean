import ComponentCompiler.Proofs.Text.Rewriting
import ComponentCompiler.Module.Format
import Mathlib.Data.Option.Basic

/-!
# Formats keep the lines

None of the patterns that put code into a module format can read or write a line feed, so each of
them stops there. The rewrites that are built from them keep the lines of any code, one after the
other and each on what the one before it made.
-/

namespace ComponentCompiler.Module

open Text

section Patterns

variable {before : Option Char} {s rest replacement path : List Char}

theorem quote?_append (s t : List Char) :
    quote? (s ++ '\n' :: t) = (quote? s).map (Prod.map id (· ++ '\n' :: t)) := by
  cases s with
  | nil => rfl
  | cons c s =>
      simp only [List.cons_append, quote?]
      split <;> rfl

theorem eq_of_quote? {c : Char} (h : quote? s = some (c, rest)) :
    s = c :: rest ∧ c ≠ '\n' := by
  cases s with
  | nil => cases h
  | cons d s =>
      simp only [quote?, Option.ite_none_right_eq_some, Option.some.injEq, Prod.mk.injEq] at h
      obtain ⟨hquote, rfl, rfl⟩ := h
      refine ⟨rfl, ?_⟩
      rintro rfl
      simp at hquote

theorem quotedPath?_append (isPath : List Char → Bool) (s t : List Char) :
    quotedPath? isPath (s ++ '\n' :: t) =
      (quotedPath? isPath s).map (Prod.map id (· ++ '\n' :: t)) := by
  have hpath : isPathChar '\n' = false := by decide
  have hend : '\n' ∉ ";".toList := by decide
  simp only [quotedPath?, quote?_append, run?_append hpath, word?_append hend, Option.bind_eq_bind,
    Option.bind_map, Option.map_bind, Function.comp_def, Prod.map_fst, Prod.map_snd, id]
  refine Option.bind_congr fun _ _ => Option.bind_congr fun _ _ => ?_
  refine Option.bind_congr fun last _ => ?_
  split
  · cases word? ";" last.2 <;> rfl
  · rfl

/-- A quoted path stands on one line. -/
theorem eq_of_quotedPath? {isPath : List Char → Bool}
    (h : quotedPath? isPath s = some (path, rest)) :
    '\n' ∉ path ∧ ∃ part, s = part ++ rest := by
  simp only [quotedPath?, Option.bind_eq_bind, Option.bind_eq_some_iff, Option.pure_def,
    Option.ite_none_right_eq_some, Option.some.injEq, Prod.mk.injEq, Prod.exists] at h
  obtain ⟨opening, s₁, hopening, middle, s₂, hmiddle, closing, s₃, hclosing, -, rfl, rfl⟩ := h
  have hclass : '\n' ∉ middle := not_mem_of_run? hmiddle (by decide)
  obtain ⟨rfl, hfirst⟩ := eq_of_quote? hopening
  obtain ⟨rfl, -⟩ := eq_of_run? hmiddle
  obtain ⟨rfl, hlast⟩ := eq_of_quote? hclosing
  constructor
  · simp [hfirst.symm, hlast.symm, hclass]
  · cases hend : word? ";" s₃ with
    | none => exact ⟨opening :: middle ++ [closing], by simp⟩
    | some s₄ =>
        rw [eq_of_word? hend]
        exact ⟨opening :: middle ++ [closing, ';'], by simp⟩

variable {stop : Char}

/-- A field with a name in quotes stops at what no word, no field name and no quote has in it. -/
theorem scanField_stopsAt {field : String} (hfield : stop ∉ field.toList)
    (hname : isNameChar stop = false) (hquote : stop ∉ "'".toList) :
    (scanField field).StopsAt stop where
  restarts s := by
    have hword : isWord stop = false := (Bool.or_eq_false_iff.mp hname).1
    simp only [scanField, boundary?_stop hword]
  stays before s t := by
    have hword : isWord stop = false := (Bool.or_eq_false_iff.mp hname).1
    simp [scanField, boundary?_append hword, word?_append hfield, run?_append hname,
      word?_append hquote, Option.bind_map]
  consumes h := by
    simp only [scanField, Option.bind_eq_bind, Option.bind_eq_some_iff, Prod.exists] at h
    obtain ⟨-, -, s₁, hword, name, s₂, hrun, hend⟩ := h
    rw [eq_of_word? hword, (eq_of_run? hrun).1, eq_of_word? hend]
    exact ⟨field.toList ++ name ++ ['\''], by simp, by simp⟩

theorem scanInferredName_stopsAt (hname : isNameChar stop = false)
    (hother : stop ∉ "__name: ',".toList) : scanInferredName.StopsAt stop := by
  have hfield : (scanField "__name: '").StopsAt stop :=
    scanField_stopsAt (fun h => hother (by simp_all)) hname (fun h => hother (by simp_all))
  have hcomma : stop ∉ ",".toList := fun h => hother (by simp_all)
  constructor
  · intro s
    simp only [scanInferredName, hfield.restarts]
  · intro before s t
    simp only [scanInferredName, hfield.stays, Option.map_map, Function.comp_def,
      word?_append hcomma]
    refine congrArg (Option.map · _) (funext fun s => ?_)
    cases word? "," s <;> rfl
  · intro before s rest h
    obtain ⟨s₁, hscan, hrest⟩ := Option.map_eq_some_iff.mp h
    obtain ⟨part, hne, rfl⟩ := hfield.consumes hscan
    cases hword : word? "," s₁ with
    | none => exact ⟨part, hne, by simpa [hword] using hrest⟩
    | some s₂ =>
        obtain rfl : s₂ = rest := by simpa [hword] using hrest
        exact ⟨part ++ [','], by simp, by simp [eq_of_word? hword]⟩

theorem scanAssignment_stopsAt : scanAssignment.StopsAt '\n' where
  restarts _ := rfl
  stays _ s t := oneOf?_append (by decide) s t
  consumes h := by
    obtain ⟨word, hword, hsplit⟩ := eq_of_oneOf? h
    refine ⟨word.toList, ?_, hsplit⟩
    have hall : ∀ word ∈ assignmentStarts, word.toList ≠ [] := by decide
    exact hall word hword

theorem eq_of_bareDeclaration (h : bareDeclaration before s = some (replacement, rest)) :
    replacement ∈ declarationWords.map String.toList ∧
      s = "export ".toList ++ replacement ++ rest := by
  simp only [bareDeclaration, Option.bind_eq_bind, Option.bind_eq_some_iff] at h
  obtain ⟨-, -, s₁, hexport, h⟩ := h
  obtain ⟨word, hword, h⟩ := List.exists_of_findSome?_eq_some h
  simp only [Option.bind_eq_some_iff, Option.pure_def, Option.some.injEq, Prod.mk.injEq] at h
  obtain ⟨s₂, hrest, -, -, rfl, rfl⟩ := h
  refine ⟨List.mem_map_of_mem hword, ?_⟩
  rw [eq_of_word? hexport, eq_of_word? hrest, List.append_assoc]

/-- Exported declarations stop at what no word and no word that declares has in it. -/
theorem bareDeclaration_stopsAt (hword : isWord stop = false)
    (hwords : ∀ word ∈ declarationWords, stop ∉ ("export " ++ word).toList) :
    bareDeclaration.StopsAt stop where
  restarts s := by simp only [bareDeclaration, boundary?_stop hword]
  stays before s t := by
    have hexport : stop ∉ "export ".toList := fun h =>
      hwords "function" (by decide) (by rw [String.toList_append]; exact List.mem_append_left _ h)
    have hdeclared : ∀ word ∈ declarationWords, stop ∉ word.toList := fun word hmem h =>
      hwords word hmem (by rw [String.toList_append]; exact List.mem_append_right _ h)
    simp only [bareDeclaration, boundary?_append hword, word?_append hexport,
      Option.bind_eq_bind, Option.bind_map, Option.map_bind, Function.comp_def]
    refine Option.bind_congr fun _ _ => Option.bind_congr fun s₁ _ => ?_
    refine findSome?_eq_map fun word hmem => ?_
    simp [word?_append (hdeclared word hmem), boundary?_append hword, Option.bind_map]
  consumes h := by
    obtain ⟨-, rfl⟩ := eq_of_bareDeclaration h
    exact ⟨"export ".toList ++ _, by simp, rfl⟩
  clean h := by
    obtain ⟨word, hmem, hreplacement⟩ := List.mem_map.mp (eq_of_bareDeclaration h).1
    rw [← hreplacement]
    exact fun h => hwords word hmem
      (by rw [String.toList_append]; exact List.mem_append_right _ h)

theorem bareDeclaration_writes : bareDeclaration.Writes := by
  intro before s replacement rest h
  have hwords : ∀ word ∈ declarationWords.map String.toList, word ≠ [] := by decide
  exact hwords replacement (eq_of_bareDeclaration h).1

theorem eq_of_assetConstant (h : assetConstant before s = some (replacement, rest)) :
    ∃ name path, replacement = "const ".toList ++ name ++ " = ''; // ".toList ++ path ∧
      '\n' ∉ name ∧ '\n' ∉ path ∧ ∃ part, s = "import ".toList ++ part ++ rest := by
  simp only [assetConstant, Option.bind_eq_bind, Option.bind_eq_some_iff, Option.pure_def,
    Option.some.injEq, Prod.mk.injEq, Prod.exists] at h
  obtain ⟨s₁, himport, name, s₂, hname, s₃, hfrom, path, s₄, hpath, rfl, rfl⟩ := h
  obtain ⟨hclean, part, hpart⟩ := eq_of_quotedPath? hpath
  refine ⟨name, path, rfl, not_mem_of_run? hname (by decide), hclean,
    name ++ " from ".toList ++ part, ?_⟩
  rw [eq_of_word? himport, (eq_of_run? hname).1, eq_of_word? hfrom, hpart]
  simp only [List.append_assoc]

theorem assetConstant_stopsAt : assetConstant.StopsAt '\n' where
  restarts _ := rfl
  stays before s t := by
    have himport : '\n' ∉ "import ".toList := by decide
    have hfrom : '\n' ∉ " from ".toList := by decide
    have hname (s : List Char) : run? (fun c => isWord c || c == '$' || c == '-')
        (s ++ '\n' :: t) = _ := run?_append (by decide) s t
    simp [assetConstant, word?_append himport, word?_append hfrom, hname, quotedPath?_append,
      Option.bind_map]
  consumes h := by
    obtain ⟨-, -, -, -, -, part, rfl⟩ := eq_of_assetConstant h
    exact ⟨"import ".toList ++ part, by simp, rfl⟩
  clean h := by
    obtain ⟨name, path, rfl, hname, hpath, -⟩ := eq_of_assetConstant h
    simp [hname, hpath]

theorem assetConstant_writes : assetConstant.Writes := by
  intro before s replacement rest h
  obtain ⟨name, path, rfl, -⟩ := eq_of_assetConstant h
  simp

theorem eq_of_requiredNames (h : requiredNames before s = some (replacement, rest)) :
    ∃ names path, replacement = "const \x7b".toList ++
        replaceEvery " as ".toList ": ".toList names ++ "\x7d = require(".toList ++ path ++
        ");".toList ∧
      '\n' ∉ names ∧ '\n' ∉ path ∧ ∃ part, s = "import \x7b".toList ++ part ++ rest := by
  simp only [requiredNames, Option.bind_eq_bind, Option.bind_eq_some_iff, Option.pure_def,
    Option.some.injEq, Prod.mk.injEq, Prod.exists] at h
  obtain ⟨s₁, himport, names, s₂, hnames, s₃, hfrom, path, s₄, hpath, rfl, rfl⟩ := h
  obtain ⟨hclean, part, hpart⟩ := eq_of_quotedPath? hpath
  refine ⟨names, path, rfl, not_mem_of_run? hnames (by decide), hclean,
    names ++ "\x7d from ".toList ++ part, ?_⟩
  rw [eq_of_word? himport, (eq_of_run? hnames).1, eq_of_word? hfrom, hpart]
  simp only [List.append_assoc]

theorem requiredNames_stopsAt : requiredNames.StopsAt '\n' where
  restarts _ := rfl
  stays before s t := by
    have himport : '\n' ∉ "import \x7b".toList := by decide
    have hfrom : '\n' ∉ "\x7d from ".toList := by decide
    have hnames : isSpecifierChar '\n' = false := by decide
    simp [requiredNames, word?_append himport, word?_append hfrom, run?_append hnames,
      quotedPath?_append, Option.bind_map]
  consumes h := by
    obtain ⟨-, -, -, -, -, part, rfl⟩ := eq_of_requiredNames h
    exact ⟨"import \x7b".toList ++ part, by simp, rfl⟩
  clean h := by
    obtain ⟨names, path, rfl, hnames, hpath, -⟩ := eq_of_requiredNames h
    have hrule : Replacer.StopsAt '\n'
        fun before s => (literal " as ".toList before s).map (": ".toList, ·) :=
      (literal_stopsAt (by decide) (by decide)).replaced (by decide)
    have hopening : '\n' ∉ "const \x7b".toList := by decide
    have hmiddle : '\n' ∉ "\x7d = require(".toList := by decide
    have hend : '\n' ∉ ");".toList := by decide
    have hclean : '\n' ∉ replaceEvery " as ".toList ": ".toList names :=
      hrule.not_mem_everywhere hnames
    simp only [List.mem_append, hopening, hclean, hmiddle, hpath, hend, or_self, not_false_eq_true]

theorem requiredNames_writes : requiredNames.Writes := by
  intro before s replacement rest h
  obtain ⟨names, path, rfl, -⟩ := eq_of_requiredNames h
  simp

end Patterns

section Formats

/-- What static modules rewrite. -/
def staticPatterns : List Scanner := [scanAssignment]

/-- What dynamic modules rewrite. -/
def dynamicPatterns : List Scanner :=
  [bareDeclaration.scan, assetConstant.scan, requiredNames.scan, literal exportStart.toList]

/-- What is rewritten where setup code meets a plain script. -/
def setupPatterns : List Scanner :=
  [literal objectExport.toList, scanAssignment, scanInferredName]

/-- Replacing the first part that a scanner recognises by a fixed text, on the lines it is on. -/
theorem keepsLines_replaced {patterns : List Scanner} {scan : Scanner} {replacement : List Char}
    (h : scan.StopsAt '\n') (clean : '\n' ∉ replacement) (listed : scan ∈ patterns)
    (s : List Char) : KeepsLines patterns s
      (Replacer.once (fun before s => (scan before s).map (replacement, ·)) none s) := by
  refine KeepsLines.once (h.replaced clean) ?_ s
  have hscan : Replacer.scan (fun before s => (scan before s).map (replacement, ·)) = scan := by
    funext before s
    simp [Replacer.scan, Function.comp_def]
  rwa [hscan]

theorem keepsLines_replaceAssignment {patterns : List Scanner} {replacement : String}
    (clean : '\n' ∉ replacement.toList) (listed : scanAssignment ∈ patterns) (s : List Char) :
    KeepsLines patterns s (replaceAssignment replacement s) :=
  keepsLines_replaced scanAssignment_stopsAt clean listed s

theorem keepsLines_replaceFirst {patterns : List Scanner} {part replacement : List Char}
    (hpart : part ≠ []) (hstop : '\n' ∉ part) (clean : '\n' ∉ replacement)
    (listed : literal part ∈ patterns) (s : List Char) :
    KeepsLines patterns s (replaceFirst part replacement s) := by
  rw [replaceFirst_eq_once hpart]
  exact keepsLines_replaced (literal_stopsAt hstop hpart) clean listed s

/-- Putting code into the form of a static module keeps its lines. -/
theorem keepsLines_asStatic (code : List Char) :
    KeepsLines staticPatterns code (asStatic code) := by
  unfold asStatic
  split
  · exact .refl _ _
  · exact keepsLines_replaceAssignment (by decide) (by simp [staticPatterns]) code

/-- Putting code into the form of a dynamic module keeps its lines. -/
theorem keepsLines_asDynamic (code : List Char) :
    KeepsLines dynamicPatterns code (asDynamic code) := by
  have bare (s : List Char) : KeepsLines dynamicPatterns s (bareDeclaration.everywhere none 0 s) :=
    .everywhere (bareDeclaration_stopsAt (by decide) (by decide)) (by simp [dynamicPatterns]) s
  have assets (s : List Char) : KeepsLines dynamicPatterns s (assetConstant.everywhere none 0 s) :=
    .everywhere assetConstant_stopsAt (by simp [dynamicPatterns]) s
  have names (s : List Char) : KeepsLines dynamicPatterns s (requiredNames.everywhere none 0 s) :=
    .everywhere requiredNames_stopsAt (by simp [dynamicPatterns]) s
  refine (bare code).trans ((assets _).trans ((names _).trans ?_))
  exact keepsLines_replaceFirst (by decide) (by decide) (by decide) (by simp [dynamicPatterns]) _

/-- No code becomes empty in the form of a dynamic module. -/
theorem asDynamic_ne_nil {code : List Char} (h : code ≠ []) : asDynamic code ≠ [] := by
  have bare := bareDeclaration_writes.everywhere_ne_nil none h
  have assets := assetConstant_writes.everywhere_ne_nil none bare
  have names := requiredNames_writes.everywhere_ne_nil none assets
  exact replaceFirst_ne_nil names (by decide)

/-- What setup code that changes its exports in place gets at its end. -/
def closing (content : List Char) (plain : String) (format : ModuleForm) : List Char :=
  if isBlankText plain.toList && (format = .dynamic && occursIn objectExport.toList content) then
    ");".toList
  else
    []

theorem closing_eq (content : List Char) (plain : String) (format : ModuleForm) :
    closing content plain format = ");".toList ∨ closing content plain format = [] := by
  unfold closing
  split
  · exact .inl rfl
  · exact .inr rfl

theorem keepsLines_mergedExports (content : List Char) (plain : String) (format : ModuleForm) :
    ∃ kept, mergedExports content plain format = kept ++ closing content plain format ∧
      KeepsLines setupPatterns content kept := by
  have hobject : literal objectExport.toList ∈ setupPatterns := by simp [setupPatterns]
  have hassigned : scanAssignment ∈ setupPatterns := by simp [setupPatterns]
  unfold mergedExports
  by_cases hblank : isBlankText plain.toList
  · rw [if_pos hblank]
    by_cases hplace : format = .dynamic && occursIn objectExport.toList content
    · have hclosing : closing content plain format = ");".toList :=
        if_pos (Bool.and_eq_true_iff.mpr ⟨hblank, hplace⟩)
      rw [if_pos hplace, hclosing]
      exact ⟨_, rfl, keepsLines_replaceFirst (by decide) (by decide) (by decide) hobject content⟩
    · have hclosing : closing content plain format = [] :=
        if_neg fun h => hplace (Bool.and_eq_true_iff.mp h).2
      rw [if_neg hplace, hclosing]
      exact ⟨content, (List.append_nil content).symm, .refl _ _⟩
  · have hclosing : closing content plain format = [] :=
      if_neg fun h => hblank (Bool.and_eq_true_iff.mp h).1
    rw [if_neg hblank, hclosing]
    split
    · have hspread : '\n' ∉ (spreadExport format).toList := by cases format <;> decide
      exact ⟨_, (List.append_nil _).symm,
        (keepsLines_replaceAssignment (by decide) hassigned content).trans
          (keepsLines_replaceFirst (by decide) (by decide) hspread hobject _)⟩
    · exact ⟨content, (List.append_nil content).symm, .refl _ _⟩

/-- What is appended to setup code does not matter to the inferred name. -/
theorem dropInferredName_append (kept : List Char) :
    dropInferredName (kept ++ ");".toList) = dropInferredName kept ++ ");".toList := by
  have hscan : scanInferredName.StopsAt ')' := scanInferredName_stopsAt (by decide) (by decide)
  have hrule : Replacer.StopsAt ')' fun before s => (scanInferredName before s).map ([], ·) :=
    hscan.replaced (by simp)
  have hend : Replacer.once (fun before s => (scanInferredName before s).map ([], ·)) none [';'] =
      [';'] := by decide
  change Replacer.once _ none (kept ++ ')' :: [';']) = Replacer.once _ none kept ++ ')' :: [';']
  rw [hrule.once_append, hend]
  split
  · rfl
  · rename_i hfound
    rw [Replacer.once_of_not_found (by simpa using hfound)]

theorem keepsLines_settleName (kept tail : List Char) (htail : tail = ");".toList ∨ tail = []) :
    ∃ settled, settleName (kept ++ tail) = settled ++ tail ∧
      KeepsLines setupPatterns kept settled := by
  unfold settleName
  split
  · refine ⟨dropInferredName kept, ?_, ?_⟩
    · rcases htail with rfl | rfl
      · exact dropInferredName_append kept
      · simp
    · exact keepsLines_replaced (scanInferredName_stopsAt (by decide) (by decide)) (by simp)
        (by simp [setupPatterns]) kept
  · exact ⟨kept, rfl, .refl _ _⟩

/-- Bringing setup code together with a plain script keeps its lines, but for what the last one
gets at its end. -/
theorem keepsLines_withSetup (content plain : String) (format : ModuleForm) :
    ∃ settled, (withSetup content plain format).toList =
        settled ++ closing content.toList plain format ∧
      KeepsLines setupPatterns content.toList settled := by
  obtain ⟨kept, hmerged, hkept⟩ := keepsLines_mergedExports content.toList plain format
  obtain ⟨settled, hsettled, hlines⟩ :=
    keepsLines_settleName kept _ (closing_eq content.toList plain format)
  refine ⟨settled, ?_, hkept.trans hlines⟩
  rw [withSetup, String.toList_ofList, hmerged, hsettled]

/-- The lines of setup code after it was brought together with a plain script: a line that no
pattern matches is where it was, and the last one may be longer by what is appended. -/
theorem lines_withSetup (content plain : String) (format : ModuleForm) :
    newlines (withSetup content plain format).toList = newlines content.toList ∧
    ∀ (k : Nat) (line : List Char), (pieces '\n' content.toList)[k]? = some line →
      (∀ scan ∈ setupPatterns, found scan none line = false) →
      (pieces '\n' (withSetup content plain format).toList)[k]? =
        some (if k = newlines content.toList then line ++ closing content.toList plain format
          else line) := by
  obtain ⟨settled, hresult, hlines⟩ := keepsLines_withSetup content plain format
  have hclean : '\n' ∉ closing content.toList plain format := by
    rcases closing_eq content.toList plain format with h | h <;> simp [h]
  rw [hresult]
  constructor
  · have hnone := List.count_eq_zero.mpr hclean
    rw [← hlines.number, newlines, List.count_append, hnone, Nat.add_zero, newlines]
  · intro k line hk hline
    rw [getElem?_pieces_append_tail hclean, hlines.unmatched k line hk hline, hlines.number,
      Option.map_some]

end Formats

end ComponentCompiler.Module
