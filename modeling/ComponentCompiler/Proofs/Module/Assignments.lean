import ComponentCompiler.Proofs.Module.Exports
import ComponentCompiler.Proofs.Text.Places

/-!
# Which assignment a format rewrites

A static module, and setup code beside a plain script, rewrite the first `exports = ` of a text. A
`module.` right before it belongs to the assignment, and so does a second assignment right after
it. Nothing else about the place matters: the characters before it may be the start of a longer
name.
-/

namespace ComponentCompiler.Module

open Text

/-- An assignment to the exports, as the formats know it. -/
def assigned : List Char := "exports = ".toList

/-- What comes before an assignment; a `module.` right before the exports belongs to it. -/
def withoutModule (front : List Char) : List Char :=
  if "module.".toList <:+ front then front.take (front.length - "module.".toList.length) else front

/-- What an assignment assigns; a second assignment belongs to the first one, if that has no
`module.`. -/
def valueAfter (front rest : List Char) : List Char :=
  if "module.".toList <:+ front then rest
  else (oneOf? ["module.exports = ", "exports = "] rest).getD rest

/-- What declares the object of the plain script. -/
def objectDeclared : List Char := "const __default__ = ".toList

/-- Whether setup code makes the object of the plain script a constant: the plain script assigns to
its exports, and so does the setup code. -/
def Moves (content plain : String) : Prop :=
  isBlankText plain.toList = false ∧ occurs scanExportsAssigned plain ∧
    assigned <:+: content.toList

instance (content plain : String) : Decidable (Moves content plain) :=
  inferInstanceAs (Decidable (_ ∧ _ ∧ _))

theorem assigned_ne_nil : assigned ≠ [] := by decide

section Places

variable {code front rest tail : List Char} {before : Option Char}

theorem withoutModule_append (front : List Char) :
    withoutModule (front ++ "module.".toList) = front := by
  rw [withoutModule, if_pos (List.suffix_append _ _), List.length_append, Nat.add_sub_cancel,
    List.take_left]

theorem scanAssignment_eq_none_iff : scanAssignment before code = none ↔
    ¬assigned <+: code ∧ ¬"module.".toList ++ assigned <+: code := by
  have hstarts (start : String) (h : start ∈ assignmentStarts) :
      assigned <+: start.toList ∨ "module.".toList ++ assigned <+: start.toList := by
    revert start
    decide
  rw [scanAssignment, oneOf?, List.findSome?_eq_none_iff]
  constructor
  · intro h
    exact ⟨word?_eq_none_iff.mp (h "exports = " (by decide)),
      word?_eq_none_iff.mp (h "module.exports = " (by decide))⟩
  · rintro ⟨hexports, hmodule⟩ start hstart
    refine word?_eq_none_iff.mpr fun hcode => ?_
    rcases hstarts start hstart with h | h
    · exact hexports (h.trans hcode)
    · exact hmodule (h.trans hcode)

theorem scanAssignment_module (before : Option Char) (rest : List Char) :
    scanAssignment before ("module.".toList ++ (assigned ++ rest)) = some rest := rfl

theorem scanAssignment_assigned (before : Option Char) (rest : List Char) :
    scanAssignment before (assigned ++ rest) =
      some ((oneOf? ["module.exports = ", "exports = "] rest).getD rest) := by
  have hexports : word? "exports = " (assigned ++ rest) = some rest := word?_self "exports = " rest
  have hmodule : word? "module.exports = " (assigned ++ rest) = none := rfl
  have hfirst := word?_concat "exports = " "module.exports = " (assigned ++ rest)
  have hsecond := word?_concat "exports = " "exports = " (assigned ++ rest)
  rw [hexports, Option.bind_some] at hfirst hsecond
  simp only [scanAssignment, oneOf?, assignmentStarts, List.findSome?_cons, List.findSome?_nil,
    hexports, hmodule]
  rw [show "exports = module.exports = " = "exports = " ++ "module.exports = " from rfl, hfirst,
    show "exports = exports = " = "exports = " ++ "exports = " from rfl, hsecond]
  cases word? "module.exports = " rest <;> cases word? "exports = " rest <;> rfl

/-- Some assignment is recognised exactly if `exports = ` occurs. -/
theorem found_scanAssignment_iff : found scanAssignment before code ↔ assigned <:+: code := by
  induction code generalizing before with
  | nil =>
    rw [List.infix_nil]
    exact ⟨nofun, fun h => absurd h assigned_ne_nil⟩
  | cons c code ih =>
    rw [found, Bool.or_eq_true, ih, List.infix_cons_iff, Option.isSome_iff_ne_none, ne_eq,
      scanAssignment_eq_none_iff, not_and_or, not_not, not_not]
    constructor
    · rintro ((h | ⟨rest, hrest⟩) | h)
      · exact .inl h
      · refine .inr ⟨"odule.".toList, rest, ?_⟩
        exact (List.cons.inj hrest).2
      · exact .inr h
    · rintro (h | h)
      · exact .inl (.inl h)
      · exact .inr h

/-- Before the first `exports = ` an assignment can only start with a `module.` right before it. -/
theorem eq_module_of_scanAssignment (h : FirstAt assigned code front rest) (htail : tail <:+ front)
    (hne : tail ≠ []) (hscan : scanAssignment before (tail ++ (assigned ++ rest)) ≠ none) :
    tail = "module.".toList := by
  rw [ne_eq, scanAssignment_eq_none_iff, not_and_or, not_not, not_not] at hscan
  rcases hscan with hassigned | ⟨rest', hrest'⟩
  · exact absurd hassigned (h.not_prefix htail hne)
  · obtain ⟨start, rfl⟩ := htail
    have hlater := h.first (start ++ "module.".toList) rest' (by
      rw [h.split, List.append_assoc, ← hrest']
      simp only [List.append_assoc])
    rw [List.append_assoc] at hrest'
    rcases List.append_eq_append_iff.mp hrest' with ⟨middle, htail, -⟩ | ⟨middle, hmodule, hback⟩
    · -- the tail is no longer than `module.`
      rw [htail, List.length_append, List.length_append, List.length_append] at hlater
      rw [htail, List.length_eq_zero_iff.mp (by omega : middle.length = 0), List.append_nil]
    · -- a part of `module.` cannot be the start of `exports = `
      have hapart : Apart "module.".toList assigned := by decide
      rcases eq_or_ne middle [] with rfl | hmiddle
      · rw [hmodule, List.append_nil]
      · have hmem : middle ∈ "module.".toList.tail.tails := by
          cases tail with
          | nil => exact absurd rfl hne
          | cons c tail =>
            rw [hmodule]
            exact (List.mem_tails _ _).mpr (List.suffix_append tail middle)
        have hcomparable := List.prefix_or_prefix_of_prefix
          (hback ▸ List.prefix_append middle (assigned ++ rest')) (List.prefix_append assigned rest)
        exact absurd hcomparable (not_or.mpr (hapart middle hmem hmiddle))

/-- What replacing the assignment makes of a text. -/
theorem replaceAssignment_eq (h : FirstAt assigned code front rest) (replacement : String) :
    replaceAssignment replacement code =
      withoutModule front ++ (replacement.toList ++ valueAfter front rest) := by
  rw [replaceAssignment, h.split]
  by_cases hmodule : "module.".toList <:+ front
  · obtain ⟨start, rfl⟩ := hmodule
    have hsilent : Replacer.Silent
        (fun before s => (scanAssignment before s).map (replacement.toList, ·)) start
        ("module.".toList ++ assigned ++ rest) := by
      intro tail htail hne before
      rw [Option.map_eq_none_iff]
      by_contra hscan
      rw [List.append_assoc, ← List.append_assoc] at hscan
      have heq := eq_module_of_scanAssignment h (List.suffix_append_self_iff.mpr htail)
        (by simp) hscan
      exact hne (List.append_left_eq_self.mp heq)
    rw [withoutModule_append, valueAfter, if_pos (List.suffix_append _ _), List.append_assoc,
      ← List.append_assoc "module.".toList, hsilent.once, Replacer.once_of_rule _ (by simp)]
    rw [List.append_assoc, scanAssignment_module, Option.map_some]
  · have hsilent : Replacer.Silent
        (fun before s => (scanAssignment before s).map (replacement.toList, ·)) front
        (assigned ++ rest) := by
      intro tail htail hne before
      rw [Option.map_eq_none_iff]
      by_contra hscan
      exact hmodule (eq_module_of_scanAssignment h htail hne hscan ▸ htail)
    have hne : assigned ++ rest ≠ [] := List.append_ne_nil_of_left_ne_nil assigned_ne_nil rest
    rw [withoutModule, if_neg hmodule, hsilent.once, Replacer.once_of_rule _ hne, valueAfter,
      if_neg hmodule]
    rw [scanAssignment_assigned, Option.map_some]

end Places

section Results

variable {content plain : String}

theorem mergedExports_of_moves (h : Moves content plain) (format : ModuleForm) :
    mergedExports content.toList plain format =
      replaceFirst objectExport.toList (spreadExport format).toList
        (replaceAssignment "const __default__ = " content.toList) := by
  obtain ⟨hplain, hassigned, hcontent⟩ := h
  have hfound : found scanAssignment none content.toList := found_scanAssignment_iff.mpr hcontent
  simp [mergedExports, hplain, hassigned, hfound]

/-- What becomes of the start of a default export that changes the exports in place. -/
def inPlaceExport : List Char := "/*#__PURE__*/Object.assign(module.exports, \x7b".toList

theorem mergedExports_of_not_moves (h : ¬Moves content plain) (format : ModuleForm) :
    mergedExports content.toList plain format = content.toList ∨
      mergedExports content.toList plain format =
        replaceFirst objectExport.toList inPlaceExport content.toList ++ ");".toList := by
  rw [mergedExports]
  split
  · split
    · exact .inr rfl
    · exact .inl rfl
  · rename_i hplain
    split
    · rename_i hmoves
      rw [Bool.and_eq_true, found_scanAssignment_iff] at hmoves
      exact absurd ⟨by simpa using hplain, hmoves⟩ h
    · exact .inl rfl

theorem asStatic_eq_self_iff (code : List Char) :
    asStatic code = code ↔ exportStart.toList <:+: code ∨ ¬assigned <:+: code := by
  rw [asStatic]
  split
  · rename_i hexport
    exact ⟨fun _ => .inl (occursIn_iff.mp hexport), fun _ => rfl⟩
  · rename_i hexport
    rw [occursIn_iff] at hexport
    by_cases hassigned : assigned <:+: code
    · obtain ⟨front, rest, hfirst⟩ := exists_firstAt hassigned
      refine ⟨fun hself => .inl ?_, fun h => absurd hassigned (h.resolve_left hexport)⟩
      rw [← hself, replaceAssignment_eq hfirst]
      exact List.infix_append' _ _ _
    · refine ⟨fun _ => .inr hassigned, fun _ => ?_⟩
      have hnone : found scanAssignment none code = false := by
        rwa [← Bool.not_eq_true, found_scanAssignment_iff]
      rw [replaceAssignment, Replacer.once_of_not_found (by rwa [scan_replaced])]

theorem asStatic_eq {code front rest : List Char} (h : FirstAt assigned code front rest)
    (hexport : ¬exportStart.toList <:+: code) :
    asStatic code = withoutModule front ++ (exportStart.toList ++ valueAfter front rest) := by
  rw [asStatic, if_neg (by rwa [occursIn_iff]), replaceAssignment_eq h]

/-- A static module, and setup code beside a plain script, rewrite the first assignment wherever it
stands: a code is its own static form exactly if it exports a default or has no assignment at all,
and no other character of it changes. -/
theorem rewrites_first_assigned (code plain : String) (format : ModuleForm) :
    (inFormat code .static = code ↔
      exportStart.toList <:+: code.toList ∨ ¬assigned <:+: code.toList) ∧
    (∀ front rest, FirstAt assigned code.toList front rest →
      (¬exportStart.toList <:+: code.toList → (inFormat code .static).toList =
        withoutModule front ++ (exportStart.toList ++ valueAfter front rest)) ∧
      (Moves code plain → (withSetup code plain format).toList =
        settleName (replaceFirst objectExport.toList (spreadExport format).toList
          (withoutModule front ++ (objectDeclared ++ valueAfter front rest))))) ∧
    (¬Moves code plain → (withSetup code plain format).toList = settleName code.toList ∨
      (withSetup code plain format).toList = settleName
        (replaceFirst objectExport.toList inPlaceExport code.toList ++ ");".toList)) := by
  refine ⟨?_, fun front rest hfirst => ⟨fun hexport => ?_, fun hmoves => ?_⟩, fun hstays => ?_⟩
  · rw [← asStatic_eq_self_iff, inFormat, ← String.toList_inj, String.toList_ofList]
  · rw [inFormat, String.toList_ofList, asStatic_eq hfirst hexport]
  · rw [withSetup, String.toList_ofList, mergedExports_of_moves hmoves, replaceAssignment_eq hfirst]
    rfl
  · rw [withSetup, String.toList_ofList]
    exact (mergedExports_of_not_moves hstays format).imp (congrArg settleName) (congrArg settleName)

/-- An assignment after a line that belongs to it. -/
theorem rewrites_first_assigned_of_plain_object :
    let code := "let a = 1\nmodule.exports = \x7b a \x7d"
    FirstAt assigned code.toList "let a = 1\nmodule.".toList "\x7b a \x7d".toList ∧
    ¬exportStart.toList <:+: code.toList ∧ Moves code code ∧
    (inFormat code .static).toList = "let a = 1\nexport default \x7b a \x7d".toList ∧
    (withSetup code code .static).toList =
      settleName (replaceFirst objectExport.toList (spreadExport .static).toList
        "let a = 1\nconst __default__ = \x7b a \x7d".toList) := by
  intro code
  have hfirst : FirstAt assigned code.toList "let a = 1\nmodule.".toList "\x7b a \x7d".toList := by
    decide
  have hexport : ¬exportStart.toList <:+: code.toList := by decide
  have hmoves : Moves code code := by decide
  obtain ⟨-, hplaces, -⟩ := rewrites_first_assigned code code .static
  obtain ⟨hstatic, hmerged⟩ := hplaces _ _ hfirst
  exact ⟨hfirst, hexport, hmoves, hstatic hexport, hmerged hmoves⟩

/-- Whether an assignment at a place is the end of a longer name, or of a member of something. -/
def InsideName (front : List Char) : Prop :=
  (withoutModule front).getLast?.any fun c => isWord c || c == '$' || c == '.'

instance (front : List Char) : Decidable (InsideName front) :=
  inferInstanceAs (Decidable (_ = true))

/-- The declaration of a variable whose name ends like the exports is rewritten. -/
theorem rewritten_inside_name :
    let code := "var myexports = \x7b\x7d"
    (∀ front rest, code.toList = front ++ (assigned ++ rest) → InsideName front) ∧
    inFormat code .static = "var myexport default \x7b\x7d" ∧
    withSetup code code .static = "var myconst __default__ = \x7b\x7d" := by
  intro code
  have hplaces : ∀ n ≤ code.toList.length,
      assigned <+: code.toList.drop n → InsideName (code.toList.take n) := by decide
  refine ⟨fun front rest hsplit => ?_, by decide, by decide⟩
  have hplace := hplaces front.length (by rw [hsplit, List.length_append]; omega)
  rw [hsplit, List.drop_left, List.take_left] at hplace
  exact hplace (List.prefix_append assigned rest)

end Results

end ComponentCompiler.Module
