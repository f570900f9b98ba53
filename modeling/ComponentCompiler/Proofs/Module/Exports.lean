import ComponentCompiler.Proofs.Module.Format
import ComponentCompiler.Proofs.Text.Starts

/-!
# Statements that export

A line may start with an export statement or with an assignment to the exports. A format rewrites
the first default export of a text and, in dynamic modules, every exported declaration; whatever
else a line starts with stays.
-/

namespace ComponentCompiler.Module

open Text

/-- The starts of export statements, but for declarations. -/
def exportForms : List String := ["export default", "export \x7b", "export *"]

/-- Whether a line starts with an export statement. -/
def startsExport (line : List Char) : Bool :=
  (oneOf? exportForms line).isSome || (bareDeclaration none line).isSome

/-- Whether a line starts with an assignment to the exports, with any blanks around the sign. -/
def startsAssignment (line : List Char) : Bool :=
  (scanExportsAssigned none line).isSome ||
    ((word? "module." line).bind (scanExportsAssigned none)).isSome

section Starts

variable {front head head' rest rest' line : List Char}

/-- A word, and what follows it starts or ends another word. -/
def declares (line : List Char) (word : String) : Bool :=
  (word? ("export " ++ word) line).any fun rest => (boundary? word.toList.getLast? rest).isSome

theorem startsDeclaration_eq (line : List Char) :
    (bareDeclaration none line).isSome = declarationWords.any (declares line) := by
  have hdeclares : declares line = fun word => ((word? "export " line).bind (word? word)).any
      fun rest => (boundary? word.toList.getLast? rest).isSome := by
    funext word
    rw [declares, word?_concat]
  rw [bareDeclaration, hdeclares]
  simp only [Option.bind_eq_bind]
  cases hexport : word? "export " line with
  | none => simp
  | some s =>
    have hstart : boundary? none line = some () := by
      rw [eq_of_word? hexport]
      rfl
    rw [hstart]
    simp only [Option.bind_some, List.isSome_findSome?]
    refine congrArg (List.any declarationWords) (funext fun word => ?_)
    cases word? word s with
    | none => rfl
    | some rest =>
      rw [Option.bind_some, Option.any_some]
      cases boundary? word.toList.getLast? rest <;> rfl

theorem boundary?_append_word {c c' : Char} (h : isWord c) (h' : isWord c') (before : Option Char)
    (r t t' : List Char) : boundary? before (r ++ c :: t) = boundary? before (r ++ c' :: t') := by
  cases r with
  | nil => simp [boundary?, isWordBoundary, h, h']
  | cons d r => rfl

/-- A text that starts with a word, and that reads differently from an export statement wherever in
the statement it comes. -/
structure Unlike (head : List Char) : Prop where
  forms : ∀ form ∈ exportForms, Apart form.toList head
  words : ∀ word ∈ declarationWords, Apart ("export " ++ word).toList head
  word : head.head?.any isWord

theorem exists_cons_of_head? {p : Char → Bool} {s : List Char} (h : s.head?.any p) :
    ∃ c more, s = c :: more ∧ p c := by
  cases s with
  | nil => cases h
  | cons c more => exact ⟨c, more, rfl, h⟩

/-- Whether a line starts with an export statement does not depend on a part further on that is
unlike one. -/
theorem startsExport_append (h : Unlike head) (h' : Unlike head') (hfront : front ≠ [])
    (rest rest' : List Char) :
    startsExport (front ++ (head ++ rest)) = startsExport (front ++ (head' ++ rest')) := by
  obtain ⟨c, more, hhead, hc⟩ := exists_cons_of_head? h.word
  obtain ⟨c', more', hhead', hc'⟩ := exists_cons_of_head? h'.word
  have hforms : (oneOf? exportForms (front ++ (head ++ rest))).isSome =
      (oneOf? exportForms (front ++ (head' ++ rest'))).isSome := by
    rw [oneOf?, oneOf?, List.isSome_findSome?, List.isSome_findSome?]
    refine any_congr_of_mem fun form hform => ?_
    rw [(h.forms form hform).word?_append hfront, (h'.forms form hform).word?_append hfront,
      Option.isSome_map, Option.isSome_map]
  have hwords : declarationWords.any (declares (front ++ (head ++ rest))) =
      declarationWords.any (declares (front ++ (head' ++ rest'))) := by
    refine any_congr_of_mem fun word hword => ?_
    rw [declares, declares, (h.words word hword).word?_append hfront,
      (h'.words word hword).word?_append hfront]
    cases word? ("export " ++ word) front with
    | none => rfl
    | some r =>
      rw [Option.map_some, Option.map_some, Option.any_some, Option.any_some, hhead, hhead',
        List.cons_append, List.cons_append, boundary?_append_word hc hc' _ r]
  rw [startsExport, startsExport, startsDeclaration_eq, startsDeclaration_eq, hforms, hwords]

theorem unlike_exportStart : Unlike exportStart.toList :=
  ⟨by decide, by decide, by decide⟩

theorem unlike_assignedExport : Unlike assignedExport.toList :=
  ⟨by decide, by decide, by decide⟩

theorem unlike_assignment {start : String} (h : start ∈ assignmentStarts) :
    Unlike start.toList := by
  have hforms : ∀ start ∈ assignmentStarts, ∀ form ∈ exportForms,
      Apart form.toList start.toList := by decide
  have hwords : ∀ start ∈ assignmentStarts, ∀ word ∈ declarationWords,
      Apart ("export " ++ word).toList start.toList := by decide
  have hword : ∀ start ∈ assignmentStarts, start.toList.head?.any isWord := by decide
  exact ⟨hforms start h, hwords start h, hword start h⟩

/-- An assignment to the exports in the text, or an opening of one that the text does not close. -/
structure Ends (head : List Char) : Prop where
  exports : Apart "exports".toList head
  module : Apart "module.".toList head
  nonblank : head.head?.any fun c => !isBlank c && c != '='

theorem Ends.sign (h : Ends head) (s rest : List Char) :
    (word? "=" (skipBlanks (s ++ (head ++ rest)))).isSome = (word? "=" (skipBlanks s)).isSome := by
  obtain ⟨c, more, rfl, hc⟩ := exists_cons_of_head? h.nonblank
  obtain ⟨hblank, hsign⟩ : isBlank c = false ∧ c ≠ '=' := by simpa using hc
  induction s with
  | nil => simp [skipBlanks, hblank, word?, after?, hsign.symm]
  | cons d s ih =>
    simp only [skipBlanks, List.cons_append, List.dropWhile_cons] at ih ⊢
    split
    · exact ih
    · rcases eq_or_ne '=' d with rfl | hd
      · simp [word?, after?]
      · simp [word?, after?, hd]

theorem Ends.scan (h : Ends head) (hfront : front ≠ []) (rest : List Char) :
    (scanExportsAssigned none (front ++ (head ++ rest))).isSome =
      ((word? "exports" front).any fun s => (word? "=" (skipBlanks s)).isSome) := by
  rw [scanExportsAssigned, wordThen?, h.exports.word?_append hfront]
  cases word? "exports" front with
  | none => rfl
  | some s => exact h.sign s rest

theorem ends_exportStart : Ends exportStart.toList :=
  ⟨by decide, by decide, by decide⟩

theorem ends_assignment {start : String} (h : start ∈ assignmentStarts) : Ends start.toList := by
  have hexports : ∀ start ∈ assignmentStarts, Apart "exports".toList start.toList := by decide
  have hmodule : ∀ start ∈ assignmentStarts, Apart "module.".toList start.toList := by decide
  have hnonblank : ∀ start ∈ assignmentStarts,
      start.toList.head?.any fun c => !isBlank c && c != '=' := by decide
  exact ⟨hexports start h, hmodule start h, hnonblank start h⟩

/-- Whether an assignment stands at the start of a text does not depend on a part further on that is
a default export, or an assignment that does not belong to one at the start. -/
theorem startsAssignment_append {start : String} (h : start ∈ assignmentStarts)
    (hfront : front ≠ []) (hnone : scanAssignment none (front ++ (start.toList ++ rest)) = none)
    (rest' : List Char) : startsAssignment (front ++ (exportStart.toList ++ rest')) =
      startsAssignment (front ++ (start.toList ++ rest)) := by
  have hstart : Ends start.toList := ends_assignment h
  have hexport : Ends exportStart.toList := ends_exportStart
  rw [startsAssignment, startsAssignment, hexport.scan hfront, hstart.scan hfront,
    hexport.module.word?_append hfront, hstart.module.word?_append hfront]
  cases hmodule : word? "module." front with
  | none => rfl
  | some r =>
    rcases eq_or_ne r [] with rfl | hr
    · rw [eq_of_word? hmodule, List.append_nil] at hnone
      simp only [assignmentStarts, List.mem_cons, List.not_mem_nil, or_false] at h
      rcases h with rfl | rfl | rfl | rfl
      · cases hnone
      · cases hnone
      · rfl
      · cases hnone
    · simp only [Option.map_some, Option.bind_some, hexport.scan hr, hstart.scan hr]

end Starts

section Lines

variable {scan : Scanner} {line : List Char}

theorem scan_replaced (scan : Scanner) (replacement : List Char) :
    Replacer.scan (fun before s => (scan before s).map (replacement, ·)) = scan := by
  funext before s
  simp [Replacer.scan, Function.comp_def]

/-- The first part that a scanner recognises is replaced by a fixed text: it is at the start of a
line or after other characters. -/
theorem replaced_cases (h : found scan none line) (replacement : List Char) :
    (∃ rest, scan none line = some rest ∧
      Replacer.once (fun before s => (scan before s).map (replacement, ·)) none line =
        replacement ++ rest) ∨
    scan none line = none ∧ ∃ front b tail rest, front ≠ [] ∧ line = front ++ tail ∧
      scan b tail = some rest ∧
      Replacer.once (fun before s => (scan before s).map (replacement, ·)) none line =
        front ++ (replacement ++ rest) := by
  rw [← scan_replaced scan replacement] at h
  rcases Replacer.once_cases h with ⟨text, rest, hrule, honce⟩ |
    ⟨hnone, front, b, tail, text, rest, hfront, hline, hrule, honce⟩
  · obtain ⟨rest', hscan, hpair⟩ := Option.map_eq_some_iff.mp hrule
    obtain ⟨rfl, rfl⟩ := Prod.mk.inj hpair
    exact .inl ⟨rest', hscan, honce⟩
  · obtain ⟨rest', hscan, hpair⟩ := Option.map_eq_some_iff.mp hrule
    obtain ⟨rfl, rfl⟩ := Prod.mk.inj hpair
    exact .inr ⟨Option.map_eq_none_iff.mp hnone, front, b, tail, rest', hfront, hline, hscan,
      honce⟩

/-- Whether a line starts with an assignment of a default export that is written as the formats
know it. -/
def opensAssignment (line : List Char) : Bool := (scanAssignment none line).isSome

/-- Whether a line starts with a default export that is written as the formats know it. -/
def opensDefault (line : List Char) : Bool := (literal exportStart.toList none line).isSome

/-- A line exports after its assignment was replaced if it did so before or if the assignment is at
its start. -/
theorem startsExport_replaceAssignment (h : found scanAssignment none line) :
    startsExport (replaceAssignment exportStart line) =
      (startsExport line || opensAssignment line) := by
  rcases replaced_cases h exportStart.toList with ⟨rest, hscan, honce⟩ |
    ⟨hnone, front, b, tail, rest, hfront, hline, hscan, honce⟩
  · rw [replaceAssignment, honce, opensAssignment, hscan, Option.isSome_some, Bool.or_true]
    rfl
  · obtain ⟨start, hstart, rfl⟩ := eq_of_oneOf? hscan
    rw [replaceAssignment, honce, opensAssignment, hnone, Option.isSome_none, Bool.or_false, hline]
    exact startsExport_append unlike_exportStart (unlike_assignment hstart) hfront rest rest

/-- A line assigns after its assignment was replaced if it did so before and the assignment is not
the one at its start. -/
theorem startsAssignment_replaceAssignment (h : found scanAssignment none line) :
    startsAssignment (replaceAssignment exportStart line) =
      (startsAssignment line && !opensAssignment line) := by
  rcases replaced_cases h exportStart.toList with ⟨rest, hscan, honce⟩ |
    ⟨hnone, front, b, tail, rest, hfront, rfl, hscan, honce⟩
  · rw [replaceAssignment, honce, opensAssignment, hscan, Option.isSome_some, Bool.not_true,
      Bool.and_false]
    rfl
  · obtain ⟨start, hstart, rfl⟩ := eq_of_oneOf? hscan
    rw [replaceAssignment, honce, opensAssignment, hnone, Option.isSome_none, Bool.not_false,
      Bool.and_true]
    exact startsAssignment_append hstart hfront hnone rest

/-- A line exports after its default export was replaced if it did so before and the default export
is not at its start. -/
theorem startsExport_replaceDefault (h : found (literal exportStart.toList) none line) :
    startsExport (replaceFirst exportStart.toList assignedExport.toList line) =
      (startsExport line && !opensDefault line) := by
  rw [replaceFirst_eq_once (by decide), opensDefault]
  rcases replaced_cases h assignedExport.toList with ⟨rest, hscan, honce⟩ |
    ⟨hnone, front, b, tail, rest, hfront, hline, hscan, honce⟩
  · rw [honce, hscan, Option.isSome_some, Bool.not_true, Bool.and_false]
    rfl
  · rw [honce, hnone, Option.isSome_none, Bool.not_false, Bool.and_true, hline, eq_of_after? hscan]
    exact startsExport_append unlike_assignedExport unlike_exportStart hfront rest rest

end Lines

section Texts

/-- Whether the static form of a code exports at the start of a line: an assignment that is at the
start of its line turns into an export. -/
def exportsStatic (code : List Char) : Bool :=
  someLine startsExport code ||
    (!occursIn exportStart.toList code &&
      ((pieces '\n' code).find? (found scanAssignment none)).any opensAssignment)

/-- Whether the static form of a code assigns to the exports at the start of a line: only the first
assignment of a default export, in a code without an exported one, is gone. -/
def assignsStatic (code : List Char) : Bool :=
  if occursIn exportStart.toList code then
    someLine startsAssignment code
  else
    (withoutFirst (found scanAssignment none) opensAssignment (pieces '\n' code)).any
      startsAssignment

theorem pieces_replaceAssignment (replacement : String) (h : '\n' ∉ replacement.toList)
    (code : List Char) : pieces '\n' (replaceAssignment replacement code) =
      inFirst (found scanAssignment none) (replaceAssignment replacement) (pieces '\n' code) := by
  have hpieces := (scanAssignment_stopsAt.replaced h).pieces_once code
  rwa [scan_replaced] at hpieces

theorem startsExport_asStatic (code : List Char) :
    someLine startsExport (asStatic code) = exportsStatic code := by
  rw [asStatic, exportsStatic]
  split
  · rename_i hoccurs
    rw [hoccurs, Bool.not_true, Bool.false_and, Bool.or_false]
  · rename_i hoccurs
    rw [someLine, pieces_replaceAssignment _ (by decide),
      any_inFirst_of_new fun line hline => startsExport_replaceAssignment hline]
    simp [someLine, hoccurs]

theorem startsAssignment_asStatic (code : List Char) :
    someLine startsAssignment (asStatic code) = assignsStatic code := by
  rw [asStatic, assignsStatic]
  split
  · rfl
  · rw [someLine, pieces_replaceAssignment _ (by decide),
      any_inFirst_of_lost fun line hline => startsAssignment_replaceAssignment hline]

/-- An assignment at the start of a line stays in a static module if it is written otherwise. -/
theorem assignsStatic_of_spacing {line code : List Char} (h : line ∈ pieces '\n' code)
    (hassigned : startsAssignment line) (hspacing : opensAssignment line = false) :
    assignsStatic code := by
  rw [assignsStatic]
  split
  · exact List.any_eq_true.mpr ⟨line, h, hassigned⟩
  · exact List.any_eq_true.mpr ⟨line, mem_withoutFirst h hspacing, hassigned⟩

/-- A line after its declarations are no longer exported and its imports are required. -/
def dynamicLine (line : List Char) : List Char :=
  requiredNames.everywhere none 0 (assetConstant.everywhere none 0
    (bareDeclaration.everywhere none 0 line))

/-- Whether the dynamic form of a code exports at the start of a line: the first default export is
gone. -/
def exportsDynamic (code : List Char) : Bool :=
  (withoutFirst (found (literal exportStart.toList) none) opensDefault
    ((pieces '\n' code).map dynamicLine)).any startsExport

theorem pieces_asDynamic (code : List Char) : pieces '\n' (asDynamic code) =
    inFirst (found (literal exportStart.toList) none)
      (replaceFirst exportStart.toList assignedExport.toList)
      ((pieces '\n' code).map dynamicLine) := by
  have hlines : pieces '\n' (dynamicLine code) = (pieces '\n' code).map dynamicLine := by
    have hbare : bareDeclaration.StopsAt '\n' := bareDeclaration_stopsAt (by decide) (by decide)
    rw [dynamicLine, requiredNames_stopsAt.pieces_everywhere,
      assetConstant_stopsAt.pieces_everywhere, hbare.pieces_everywhere, List.map_map, List.map_map]
    rfl
  have hdefault : (literal exportStart.toList).StopsAt '\n' :=
    literal_stopsAt (by decide) (by decide)
  have hassigned : '\n' ∉ assignedExport.toList := by decide
  have hpieces := (hdefault.replaced hassigned).pieces_once (dynamicLine code)
  rw [scan_replaced, hlines] at hpieces
  have hpart : exportStart.toList ≠ [] := by decide
  have hreplace := replaceFirst_eq_once hpart assignedExport.toList
  rw [← hreplace, ← funext hreplace] at hpieces
  exact hpieces

theorem startsExport_asDynamic (code : List Char) :
    someLine startsExport (asDynamic code) = exportsDynamic code := by
  rw [someLine, pieces_asDynamic,
    any_inFirst_of_lost fun line hline => startsExport_replaceDefault hline]
  rfl

section Dynamic

variable {rule : Replacer} {start line code : List Char}

/-- What the rules of dynamic modules rewrite starts with one of these. -/
def dynamicStarts : List String := "import " :: declarationWords.map ("export " ++ ·)

/-- A start of texts at no place of which a rule of dynamic modules can apply. -/
def Plain (start : List Char) : Prop :=
  ∀ tail ∈ start.tails, tail ≠ [] → ∀ part ∈ dynamicStarts,
    ¬part.toList <+: tail ∧ ¬tail <+: part.toList

instance (start : List Char) : Decidable (Plain start) :=
  inferInstanceAs (Decidable (∀ tail ∈ start.tails, tail ≠ [] → ∀ part ∈ dynamicStarts,
    ¬part.toList <+: tail ∧ ¬tail <+: part.toList))

theorem Plain.starts_everywhere (h : Plain start)
    (hrule : ∀ {before s replacement rest}, rule before s = some (replacement, rest) →
      ∃ part ∈ dynamicStarts, part.toList <+: s)
    (hstart : start <+: line) : start <+: rule.everywhere none 0 line := by
  refine Replacer.starts_everywhere (fun tail htail hne before s => ?_) hstart
  cases hpair : rule before (tail ++ s) with
  | none => rfl
  | some pair =>
    obtain ⟨part, hpart, hstarts⟩ := hrule hpair
    obtain ⟨hlong, hshort⟩ := h tail ((List.mem_tails _ _).mpr htail) hne part hpart
    rcases List.prefix_or_prefix_of_prefix hstarts ⟨s, rfl⟩ with hprefix | hprefix
    · exact absurd hprefix hlong
    · exact absurd hprefix hshort

/-- A start that no rule applies to stays. -/
theorem Plain.starts_dynamicLine (h : Plain start) (hstart : start <+: line) :
    start <+: dynamicLine line := by
  have hbare : start <+: bareDeclaration.everywhere none 0 line := by
    refine h.starts_everywhere (fun hpair => ?_) hstart
    obtain ⟨hword, rfl⟩ := eq_of_bareDeclaration hpair
    obtain ⟨word, hmem, rfl⟩ := List.mem_map.mp hword
    refine ⟨"export " ++ word, by simp [dynamicStarts, hmem], ?_⟩
    rw [String.toList_append]
    exact List.prefix_append _ _
  have hasset : start <+: assetConstant.everywhere none 0
      (bareDeclaration.everywhere none 0 line) := by
    refine h.starts_everywhere (fun hpair => ?_) hbare
    obtain ⟨-, -, -, -, -, part, rfl⟩ := eq_of_assetConstant hpair
    refine ⟨"import ", List.mem_cons_self, ?_⟩
    rw [List.append_assoc]
    exact List.prefix_append _ _
  refine h.starts_everywhere (fun hpair => ?_) hasset
  obtain ⟨-, -, -, -, -, part, rfl⟩ := eq_of_requiredNames hpair
  have hpart : "import ".toList <+: "import \x7b".toList := by decide
  refine ⟨"import ", List.mem_cons_self, hpart.trans ?_⟩
  rw [List.append_assoc]
  exact List.prefix_append _ _

theorem starts_of_startsExport (h : startsExport line) : "export ".toList <+: line := by
  rw [startsExport, Bool.or_eq_true, Option.isSome_iff_exists, Option.isSome_iff_exists] at h
  rcases h with ⟨rest, hform⟩ | ⟨pair, hdeclared⟩
  · have hforms : ∀ form ∈ exportForms, "export ".toList <+: form.toList := by decide
    obtain ⟨form, hmem, rfl⟩ := eq_of_oneOf? hform
    exact (hforms form hmem).trans (List.prefix_append _ _)
  · obtain ⟨-, rfl⟩ := eq_of_bareDeclaration hdeclared
    rw [List.append_assoc]
    exact List.prefix_append _ _

/-- A line that exports in a dynamic module started with an export that is not one of a
declaration. -/
theorem of_startsExport_dynamicLine (h : startsExport (dynamicLine line)) :
    "export ".toList <+: line ∧ bareDeclaration none line = none := by
  have hstart : "export ".toList <+: dynamicLine line := starts_of_startsExport h
  have hasset : "export ".toList <+: assetConstant.everywhere none 0
      (bareDeclaration.everywhere none 0 line) := by
    refine Replacer.starts_of_everywhere (fun hpair => ?_) hstart
    obtain ⟨names, path, rfl, -⟩ := eq_of_requiredNames hpair
    exact ⟨'c', _, rfl, by decide⟩
  have hbare : "export ".toList <+: bareDeclaration.everywhere none 0 line := by
    refine Replacer.starts_of_everywhere (fun hpair => ?_) hasset
    obtain ⟨name, path, rfl, -⟩ := eq_of_assetConstant hpair
    exact ⟨'c', _, rfl, by decide⟩
  have hdeclared {before s replacement rest}
      (hpair : bareDeclaration before s = some (replacement, rest)) :
      ∃ c more, replacement = c :: more ∧ c ∉ "export ".toList := by
    have hwords : ∀ word ∈ declarationWords.map String.toList,
        word.head?.any (· ∉ "export ".toList) := by decide
    simpa using exists_cons_of_head? (hwords _ (eq_of_bareDeclaration hpair).1)
  refine ⟨Replacer.starts_of_everywhere hdeclared hbare, ?_⟩
  cases hrule : bareDeclaration none line with
  | none => rfl
  | some pair =>
    obtain ⟨c, more, hmore, hc⟩ := hdeclared hrule
    cases line with
    | nil => simp [bareDeclaration, boundary?, isWordBoundary] at hrule
    | cons d line =>
      rw [Replacer.everywhere, hrule] at hbare
      obtain ⟨rest, hrest⟩ := hbare
      dsimp only at hrest
      rw [hmore] at hrest
      obtain ⟨rfl, -⟩ := List.cons.inj hrest
      exact absurd List.mem_cons_self hc

/-- An export of a list of names, or of everything from elsewhere, stays in a dynamic module. -/
theorem exportsDynamic_of_clause (h : line ∈ pieces '\n' code)
    (hclause : "export \x7b".toList <+: line ∨ "export *".toList <+: line) :
    exportsDynamic code := by
  have hstays : startsExport (dynamicLine line) ∧ opensDefault (dynamicLine line) = false := by
    rcases hclause with hclause | hclause
    · have hplain : Plain "export \x7b".toList := by decide
      obtain ⟨rest, hrest⟩ := hplain.starts_dynamicLine hclause
      rw [← hrest]
      exact ⟨rfl, rfl⟩
    · have hplain : Plain "export *".toList := by decide
      obtain ⟨rest, hrest⟩ := hplain.starts_dynamicLine hclause
      rw [← hrest]
      exact ⟨rfl, rfl⟩
  refine List.any_eq_true.mpr ⟨dynamicLine line, ?_, hstays.1⟩
  exact mem_withoutFirst (List.mem_map_of_mem h) hstays.2

/-- A code that exports only declarations at the start of its lines exports nothing there in a
dynamic module. -/
theorem exportsDynamic_eq_false (h : ∀ line ∈ pieces '\n' code, "export ".toList <+: line →
    (bareDeclaration none line).isSome) : exportsDynamic code = false := by
  rw [exportsDynamic, List.any_eq_false]
  intro line hline hexport
  obtain ⟨line, hmem, rfl⟩ := List.mem_map.mp (mem_of_mem_withoutFirst hline)
  obtain ⟨hstart, hnone⟩ := of_startsExport_dynamicLine hexport
  have hdeclared := h line hmem hstart
  rw [hnone] at hdeclared
  cases hdeclared

end Dynamic

end Texts

end ComponentCompiler.Module
