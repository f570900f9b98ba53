import ComponentCompiler.Proofs.Module.Assignments

/-!
# When the object of a plain script is spread

Setup code beside a plain script that assigns to its exports is changed at two places: the
assignment becomes the declaration of a constant, and the start of the default export of an object
spreads that constant. The first change does not wait for the second one. A default export that
does not start as an object is left alone, and then the constant is declared and never used.
-/

namespace ComponentCompiler.Module

open Text

/-- What spreads the object of the plain script. -/
def objectSpread : List Char := "...__default__,".toList

/-- The name under which the object of the plain script is spread. -/
def objectName : List Char := "__default__".toList

/-- An inferred name, with the comma that goes with it. -/
def InferredName (part : List Char) : Prop :=
  ∃ name comma, part = "__name: '".toList ++ (name ++ '\'' :: comma) ∧
    (∀ c ∈ name, isNameChar c) ∧ (comma = [] ∨ comma = [','])

section Names

variable {code front rest part kept : List Char} {before : Option Char}

theorem inferredName_of_scan (h : scanInferredName before code = some rest) :
    ∃ part, code = part ++ rest ∧ InferredName part ∧ before.any isWord = false := by
  obtain ⟨s, hfield, hrest⟩ := Option.map_eq_some_iff.mp h
  simp only [scanField, Option.bind_eq_bind, Option.bind_eq_some_iff, Prod.exists] at hfield
  obtain ⟨⟨⟩, hboundary, s₁, hword, name, s₂, hname, hquote⟩ := hfield
  obtain ⟨rfl, hclass⟩ := eq_of_run? hname
  have hcode := eq_of_word? hword
  rw [eq_of_word? hquote] at hcode
  have hbefore : before.any isWord = false := by
    rw [hcode, boundary?, Option.ite_none_right_eq_some] at hboundary
    have hunderscore : isWord '_' := by decide
    cases before with
    | none => rfl
    | some c => simpa [isWordBoundary, hunderscore] using hboundary
  cases hcomma : word? "," s with
  | none =>
    obtain rfl : s = rest := by simpa [hcomma] using hrest
    refine ⟨_, ?_, ⟨name, [], rfl, hclass, .inl rfl⟩, hbefore⟩
    rw [hcode]
    simp
  | some s₃ =>
    obtain rfl : s₃ = rest := by simpa [hcomma] using hrest
    refine ⟨_, ?_, ⟨name, [','], rfl, hclass, .inr rfl⟩, hbefore⟩
    rw [hcode, eq_of_word? hcomma]
    simp

/-- Code is settled by leaving it as it is, or by removing an inferred name that starts a word. -/
theorem settleName_cases (code : List Char) : settleName code = code ∨
    ∃ front part rest, code = front ++ (part ++ rest) ∧ settleName code = front ++ rest ∧
      InferredName part ∧ front.getLast?.any isWord = false := by
  rw [settleName]
  split
  · rename_i hfound
    rw [Bool.and_eq_true, ← scan_replaced scanInferredName []] at hfound
    obtain ⟨front, tail, text, rest, rfl, hrule, honce⟩ := Replacer.exists_of_found hfound.2
    obtain ⟨rest', hscan, hpair⟩ := Option.map_eq_some_iff.mp hrule
    obtain ⟨rfl, rfl⟩ := Prod.mk.inj hpair
    obtain ⟨part, rfl, hpart, hbefore⟩ := inferredName_of_scan hscan
    refine .inr ⟨front, part, rest', rfl, honce, hpart, ?_⟩
    simpa [Replacer.lastOf] using hbefore
  · exact .inl rfl

/-- A text that an inferred name neither reaches into nor holds. -/
structure Unnamed (kept : List Char) : Prop where
  apart : Apart kept "__name: '".toList
  quote : '\'' ∉ kept
  comma : kept.head? ≠ some ','
  strange : ∃ c ∈ kept, c ∉ "__name: ',".toList ∧ isNameChar c = false

theorem mem_inferredName (h : InferredName part) {c : Char} (hc : c ∈ part) :
    c ∈ "__name: ',".toList ∨ isNameChar c := by
  obtain ⟨name, comma, rfl, hclass, hcomma⟩ := h
  simp only [List.mem_append, List.mem_cons] at hc
  rcases hc with hstart | hname | rfl | hend
  · have hsub : "__name: '".toList ⊆ "__name: ',".toList := by decide
    exact .inl (hsub hstart)
  · exact .inr (hclass c hname)
  · exact .inl (by decide)
  · rcases hcomma with rfl | rfl
    · cases hend
    · exact .inl (by rw [List.mem_singleton.mp hend]; decide)

/-- An end of an inferred name is its comma, or it has the closing quote. -/
theorem suffix_inferredName (h : InferredName part) {tail : List Char} (htail : tail <:+ part)
    (hne : tail ≠ []) : tail = [','] ∨ '\'' ∈ tail := by
  obtain ⟨name, comma, rfl, -, hcomma⟩ := h
  rw [← List.append_assoc] at htail
  have hend : '\'' :: comma <:+ "__name: '".toList ++ name ++ '\'' :: comma :=
    List.suffix_append _ _
  rcases List.suffix_or_suffix_of_suffix htail hend with hshort | hlong
  · rcases List.suffix_cons_iff.mp hshort with rfl | hrest
    · exact .inr List.mem_cons_self
    · rcases hcomma with rfl | rfl
      · exact absurd (List.suffix_nil.mp hrest) hne
      · rcases List.suffix_cons_iff.mp hrest with rfl | hnil
        · exact .inl rfl
        · exact absurd (List.suffix_nil.mp hnil) hne
  · exact .inr (hlong.subset List.mem_cons_self)

theorem Unnamed.clear (h : Unnamed kept) (hpart : InferredName part) : Clear kept part where
  apart tail htail hne := by
    obtain ⟨name, comma, rfl, -, -⟩ := hpart
    exact ⟨not_prefix_append (h.apart tail htail hne) _,
      fun hleads => (h.apart tail htail hne).2 ((List.prefix_append _ _).trans hleads)⟩
  block tail htail hne := by
    have hsuffix : tail <:+ part := (List.mem_tails _ _).mp htail
    refine ⟨fun hleads => ?_, fun hleads => ?_⟩
    · rcases suffix_inferredName hpart hsuffix hne with rfl | hquote
      · obtain ⟨more, rfl⟩ := hleads
        exact h.comma rfl
      · exact h.quote (hleads.subset hquote)
    · obtain ⟨c, hc, hother, hname⟩ := h.strange
      rcases mem_inferredName hpart (hsuffix.subset (hleads.subset hc)) with hin | hclass
      · exact hother hin
      · rw [hname] at hclass
        cases hclass

/-- Such a text stays when a name is settled. -/
theorem Unnamed.infix_settleName (h : Unnamed kept) (hcode : kept <:+: code) :
    kept <:+: settleName code := by
  rcases settleName_cases code with hself | ⟨front, part, rest, rfl, hsettled, hpart, -⟩
  · rwa [hself]
  · rw [hsettled]
    rcases (h.clear hpart).infix_iff.mp hcode with hfront | hrest
    · exact List.infix_append_of_infix_left hfront
    · exact List.infix_append_of_infix_right hrest

theorem unnamed_objectDeclared : Unnamed objectDeclared :=
  ⟨by decide, by decide, by decide, '=', by decide, by decide, by decide⟩

theorem unnamed_spreadExport (format : ModuleForm) : Unnamed (spreadExport format).toList := by
  cases format <;>
    exact ⟨by decide, by decide, by decide, '\x7b', by decide, by decide, by decide⟩

/-- Settling a name spreads nothing in a code in which the object's name comes with no comma. -/
theorem not_infix_settleName (h : ¬objectName ++ [','] <:+: code) :
    ¬objectSpread <:+: settleName code := by
  have hname : objectName ++ [','] <:+: objectSpread := by decide
  rcases settleName_cases code with hself | ⟨front, part, rest, rfl, hsettled, -, hfront⟩
  · rw [hself]
    exact fun hspread => h (hname.trans hspread)
  · rw [hsettled]
    intro hspread
    rcases List.infix_append_iff_ne_nil.mp hspread with
      hin | hin | ⟨start, tail, hstart, htail, hsplit, hsuffix, hleads⟩
    · exact h (List.infix_append_of_infix_left (hname.trans hin))
    · exact h (List.infix_append_of_infix_right
        (List.infix_append_of_infix_right (hname.trans hin)))
    · -- the name that was removed started a word, so only dots can stand before the gap
      have hcut : ∀ n < objectSpread.length, 0 < n →
          (objectSpread.take n).getLast?.any isWord = false →
          objectName ++ [','] <:+: objectSpread.drop n := by decide
      have hlast : start.getLast? = front.getLast? := by
        obtain ⟨before, rfl⟩ := hsuffix
        rw [List.getLast?_append_of_ne_nil before hstart]
      have hlength : start.length < objectSpread.length := by
        rw [hsplit, List.length_append]
        exact Nat.lt_add_of_pos_right (List.length_pos_iff.mpr htail)
      have hdots := hcut start.length hlength (List.length_pos_iff.mpr hstart) (by
        rw [hsplit, List.take_left, hlast]
        exact hfront)
      rw [hsplit, List.drop_left] at hdots
      exact h (List.infix_append_of_infix_right (List.infix_append_of_infix_right
        (hdots.trans hleads.isInfix)))

end Names

section Replaced

variable {code : List Char} {content plain : String}

/-- The two texts around the assignment that is replaced. -/
theorem exists_replaceAssignment (h : assigned <:+: code) (replacement : String) :
    ∃ front start rest, start ∈ assignmentStarts ∧ code = front ++ (start.toList ++ rest) ∧
      replaceAssignment replacement code = front ++ (replacement.toList ++ rest) := by
  have hfound : found scanAssignment none code := found_scanAssignment_iff.mpr h
  rw [← scan_replaced scanAssignment replacement.toList] at hfound
  obtain ⟨front, tail, text, rest, rfl, hrule, honce⟩ := Replacer.exists_of_found hfound
  obtain ⟨rest', hscan, hpair⟩ := Option.map_eq_some_iff.mp hrule
  obtain ⟨rfl, rfl⟩ := Prod.mk.inj hpair
  obtain ⟨start, hstart, rfl⟩ := eq_of_oneOf? hscan
  exact ⟨front, start, rest', hstart, rfl, honce⟩

/-- Replacing an assignment neither makes nor breaks the start of an exported object. -/
theorem infix_objectExport_iff (h : assigned <:+: code) :
    objectExport.toList <:+: replaceAssignment "const __default__ = " code ↔
      objectExport.toList <:+: code := by
  have hstarts : ∀ start ∈ assignmentStarts, Clear objectExport.toList start.toList := by decide
  have hdeclared : Clear objectExport.toList "const __default__ = ".toList := by decide
  obtain ⟨front, start, rest, hstart, rfl, heq⟩ :=
    exists_replaceAssignment h "const __default__ = "
  rw [heq, hdeclared.infix_iff, (hstarts start hstart).infix_iff]

/-- Declaring the object does not spread it. -/
theorem not_infix_replaceAssignment (h : assigned <:+: code) (hfresh : ¬objectName <:+: code) :
    ¬objectName ++ [','] <:+: replaceAssignment "const __default__ = " code := by
  have hdeclared : Clear (objectName ++ [',']) "const __default__ = ".toList := by decide
  obtain ⟨front, start, rest, -, rfl, heq⟩ := exists_replaceAssignment h "const __default__ = "
  have hname : objectName <:+: objectName ++ [','] := List.infix_append_left
  rw [heq, hdeclared.infix_iff]
  rintro (hfront | hrest)
  · exact hfresh (hname.trans (List.infix_append_of_infix_left hfront))
  · exact hfresh (hname.trans
      (List.infix_append_of_infix_right (List.infix_append_of_infix_right hrest)))

/-- Without the start of an exported object the assignment is all that changes. -/
theorem mergedExports_of_no_object (h : Moves content plain)
    (hobject : ¬objectExport.toList <:+: content.toList) (format : ModuleForm) :
    mergedExports content.toList plain format =
      replaceAssignment "const __default__ = " content.toList := by
  rw [mergedExports_of_moves h, replaceFirst_of_not_infix]
  rwa [infix_objectExport_iff h.2.2]

theorem infix_mergedExports (h : Moves content plain) (format : ModuleForm) :
    objectDeclared <:+: mergedExports content.toList plain format ∧
      (objectExport.toList <:+: content.toList →
        (spreadExport format).toList <:+: mergedExports content.toList plain format) := by
  have hdeclared : objectDeclared <:+: replaceAssignment "const __default__ = " content.toList := by
    obtain ⟨front, start, rest, -, -, heq⟩ := exists_replaceAssignment h.2.2 "const __default__ = "
    rw [heq]
    exact List.infix_append' _ _ _
  by_cases hobject : objectExport.toList <:+: content.toList
  · have hclear : Clear objectDeclared objectExport.toList := by decide
    rw [← infix_objectExport_iff h.2.2] at hobject
    obtain ⟨front, rest, hfirst⟩ := exists_firstAt hobject
    rw [hfirst.split, hclear.infix_iff] at hdeclared
    rw [mergedExports_of_moves h, hfirst.replaceFirst (by decide)]
    refine ⟨?_, fun _ => List.infix_append' _ _ _⟩
    rcases hdeclared with hfront | hrest
    · exact List.infix_append_of_infix_left hfront
    · exact List.infix_append_of_infix_right (List.infix_append_of_infix_right hrest)
  · rw [mergedExports_of_no_object h hobject]
    exact ⟨hdeclared, fun h => absurd h hobject⟩

/-- Setup code that makes the object of the plain script a constant spreads it exactly if it has
the start of an exported object; otherwise the assignment is all that changes. -/
theorem spreads_iff_exports_object (content plain : String) (format : ModuleForm)
    (h : Moves content plain) :
    objectDeclared <:+: (withSetup content plain format).toList ∧
    (objectExport.toList <:+: content.toList →
      (spreadExport format).toList <:+: (withSetup content plain format).toList) ∧
    (¬objectExport.toList <:+: content.toList → (withSetup content plain format).toList =
      settleName (replaceAssignment "const __default__ = " content.toList)) ∧
    (¬objectName <:+: content.toList →
      (objectSpread <:+: (withSetup content plain format).toList ↔
        objectExport.toList <:+: content.toList)) := by
  rw [withSetup, String.toList_ofList]
  obtain ⟨hdeclared, hspread⟩ := infix_mergedExports h format
  have hexport (hobject : objectExport.toList <:+: content.toList) :
      (spreadExport format).toList <:+: settleName (mergedExports content.toList plain format) :=
    (unnamed_spreadExport format).infix_settleName (hspread hobject)
  refine ⟨unnamed_objectDeclared.infix_settleName hdeclared, hexport, fun hobject => ?_,
    fun hfresh => ⟨fun hin => ?_, fun hobject => ?_⟩⟩
  · rw [mergedExports_of_no_object h hobject]
  · by_contra hobject
    rw [mergedExports_of_no_object h hobject] at hin
    exact not_infix_settleName (not_infix_replaceAssignment h.2.2 hfresh) hin
  · have hform : objectSpread <:+: (spreadExport format).toList := by cases format <;> decide
    exact hform.trans (hexport hobject)

/-- Setup code that exports an object beside a plain script that assigns one. -/
theorem spreads_iff_exports_object_of_literal :
    let content := "module.exports = \x7b a \x7d\nexport default \x7b b \x7d"
    Moves content "module.exports = \x7b a \x7d" ∧
    objectSpread <:+: (withSetup content "module.exports = \x7b a \x7d" .dynamic).toList := by
  intro content
  have hmoves : Moves content "module.exports = \x7b a \x7d" := by decide +kernel
  obtain ⟨-, -, -, hspread⟩ := spreads_iff_exports_object content _ .dynamic hmoves
  exact ⟨hmoves, (hspread (by decide +kernel)).mpr (by decide +kernel)⟩

/-- Setup code that exports the result of a call keeps the object in a constant that nothing
uses. -/
theorem not_spread_into_call :
    let content := "module.exports = \x7b a \x7d\nexport default define(\x7b b \x7d)"
    (withSetup content "module.exports = \x7b a \x7d" .static).toList =
      "const __default__ = \x7b a \x7d\nexport default define(\x7b b \x7d)".toList ∧
    objectDeclared <:+: (withSetup content "module.exports = \x7b a \x7d" .static).toList ∧
    ∀ format,
      ¬objectSpread <:+: (withSetup content "module.exports = \x7b a \x7d" format).toList := by
  intro content
  refine ⟨by decide +kernel, by decide +kernel, fun format => ?_⟩
  cases format <;> decide +kernel

end Replaced

end ComponentCompiler.Module
