import ComponentCompiler.Proofs.Module.Exports
import ComponentCompiler.Proofs.Module.Imports

/-!
# What the comment of an image import holds

In a dynamic module the import of an image becomes a constant, and its path a comment. The comment
goes on to the end of the line, so it holds the path and then everything that came after the import
on its line, rewritten like any other code. Each of the rewrites leaves the constant where it is:
none of them applies inside it or reaches into it.
-/

namespace ComponentCompiler.Module

open Text

section Statements

variable {name quoted path rest part head : List Char} {ended : Bool}

theorem getLast?_assetImport (h : IsAsset name quoted) (ended : Bool) :
    ∃ c, (assetImport name quoted ended).getLast? = some c ∧ isEnd c := by
  obtain ⟨path, hquoted, -⟩ := h.path
  have hsplit := assetImport_split name quoted ended []
  rw [List.append_nil, List.append_nil] at hsplit
  rw [hsplit]
  exact hquoted.getLast? (assetHead name) ended

/-- A path in quotes starts with a quote. -/
theorem Quoted.not_prefix (h : Quoted path quoted) {c : Char} (hc : isEnd c = false)
    (more rest : List Char) : ¬c :: more <+: quoted ++ rest := by
  obtain ⟨opening, closing, hopening, -, rfl, -, -⟩ := h
  rw [List.cons_append, List.cons_prefix_cons]
  rintro ⟨rfl, -⟩
  rcases hopening with rfl | rfl <;> cases hc

/-- In what comes after the first word of an import of an image, a text that needs a blank is read
neither in the name nor in the path if it differs from what follows the name. -/
theorem absent_assetImport {word more : List Char} (h : IsAsset name quoted) (hword : ' ' ∉ word)
    (hends : ∀ c ∈ word ++ ' ' :: more, isEnd c = false)
    (hmore : ∀ s, ¬more <+: "from ".toList ++ (quoted ++ s))
    (hfrom : ∀ s, Absent (word ++ ' ' :: more) " from ".toList s) (ended : Bool)
    (rest : List Char) : Absent (word ++ ' ' :: more)
      (name ++ (" from ".toList ++ (quoted ++ semicolon ended))) rest := by
  obtain ⟨path, hquoted, -⟩ := h.path
  have hname : ' ' ∉ name := not_mem_of_class h.name_class (by decide)
  have hpast : Absent (word ++ ' ' :: more) name
      (' ' :: ("from ".toList ++ (quoted ++ (semicolon ended ++ rest)))) :=
    absent_of_past hword hname _ fun _ => hmore _
  refine .append ?_ ((hfrom _).append (hquoted.absent (by simp) hends ended rest))
  rw [List.append_assoc, List.append_assoc]
  exact hpast

/-- Imports of images do not overlap: none starts inside another one. -/
theorem apart_assetImport {name' quoted' : List Char} {ended' : Bool} (h : IsAsset name quoted)
    (h' : IsAsset name' quoted') : Apart (assetImport name' quoted' ended') (assetHead name) := by
  obtain ⟨path, hquoted, -⟩ := h'.path
  obtain ⟨c, hlast, hc⟩ := getLast?_assetImport h' ended'
  have htail : (assetImport name' quoted' ended').tail =
      "mport ".toList ++ (name' ++ (" from ".toList ++ (quoted' ++ semicolon ended'))) := rfl
  have hhead : assetHead name = "import".toList ++ ' ' :: (name ++ " from ".toList) := rfl
  have hstart : "import ".toList <+: assetHead name := List.prefix_append _ _
  have himport : ∀ tail ∈ "mport ".toList.tails, tail ≠ [] →
      ¬tail <+: "import ".toList ∧ ¬"import ".toList <+: tail := by decide
  have hfrom : ∀ tail ∈ " from ".toList.tails, tail ≠ [] →
      ¬tail <+: "import ".toList ∧ ¬"import ".toList <+: tail := by decide
  have hmore (s : List Char) : ¬name ++ " from ".toList <+: "from ".toList ++ (quoted' ++ s) := by
    -- a name `import` is followed by `from`, and that by a quote and not by `from` again
    have hname : ' ' ∉ name := not_mem_of_class h.name_class (by decide)
    have hfrom : ' ' ∉ "from".toList := by decide
    intro hleads
    obtain ⟨-, hpath⟩ := (prefix_past_iff hname hfrom).mp hleads
    exact hquoted.not_prefix (by decide) _ _ hpath
  refine apart_of_absent ?_ hlast fun hmem => ?_
  · rw [htail]
    refine ((absent_of_block himport _).mono hstart).append ?_
    have hword : ' ' ∉ "import".toList := by decide
    exact absent_assetImport h' hword (assetHead_class h) hmore
      (fun s => (absent_of_block hfrom s).mono hstart) ended' []
  · rw [assetHead_class h c hmem] at hc
    cases hc

end Statements

section Passes

variable {name quoted rest : List Char} {ended : Bool} {before : Option Char}

/-- Declarations are no longer exported before an import of an image and after it. -/
theorem everywhere_bareDeclaration (h : IsAsset name quoted) (ended : Bool)
    (front rest : List Char) :
    ∃ front', bareDeclaration.everywhere none 0 (front ++ (assetImport name quoted ended ++ rest)) =
      front' ++ (assetImport name quoted ended ++ bareDeclaration.everywhere none 0 rest) := by
  have hends : bareDeclaration.EndsBefore (assetImport name quoted ended ++ rest) := by
    have hapart : ∀ word ∈ declarationWords.map String.toList,
        Apart ("export ".toList ++ word) "import ".toList := by decide
    rw [assetImport_append]
    refine Replacer.endsBefore_of_apart (fun hrule => ?_) _
    obtain ⟨hword, rfl⟩ := eq_of_bareDeclaration hrule
    exact ⟨_, hapart _ hword, rfl⟩
  have hsilent : bareDeclaration.Silent (assetImport name quoted ended) rest := by
    have hblock : ∀ next ∈ declarationWords, ∀ block ∈ ["import ", " from "],
        ∀ tail ∈ block.toList.tails, tail ≠ [] →
          ¬tail <+: exportHead next ∧ ¬exportHead next <+: tail := by decide
    have hclass : ∀ next ∈ declarationWords, ∀ c ∈ exportHead next, isEnd c = false := by decide
    have hfrom : ∀ next ∈ declarationWords,
        ¬next.toList <+: "from ".toList ∧ ¬"from ".toList <+: next.toList := by decide
    refine silent_bareDeclaration fun next hnext => ?_
    refine Absent.append (absent_of_block (hblock next hnext "import " (by decide)) _) ?_
    exact absent_assetImport h (by decide) (hclass next hnext)
      (fun s => not_prefix_append (hfrom next hnext) _)
      (fun s => absent_of_block (hblock next hnext " from " (by decide)) s) ended rest
  obtain ⟨c, hlast, hc⟩ := getLast?_assetImport h ended
  obtain ⟨front', hfront'⟩ := Replacer.everywhere_around hends hsilent front none
  refine ⟨front', ?_⟩
  rw [hfront', Replacer.lastOf, hlast, Option.some_or, Replacer.everywhere_restart]
  intro s
  simp only [bareDeclaration, boundary?_stop (isWord_of_isEnd hc)]

/-- The import of an image becomes a constant and a comment. -/
theorem everywhere_assetConstant (h : IsAsset name quoted)
    (hended : ended = false → rest.head? ≠ some ';') (front : List Char) :
    ∃ front', assetConstant.everywhere none 0 (front ++ (assetImport name quoted ended ++ rest)) =
      front' ++ (assetText name quoted ++ assetConstant.everywhere none 0 rest) := by
  have hends : assetConstant.EndsBefore (assetImport name quoted ended ++ rest) := by
    rw [assetImport_split]
    refine Replacer.endsBefore_of_apart (fun hrule => ?_) _
    obtain ⟨name', quoted', ended', h', rfl, -, -⟩ := assetConstant_eq_some_iff.mp hrule
    exact ⟨_, apart_assetImport h h', rfl⟩
  have hrule (before : Option Char) : assetConstant before (assetImport name quoted ended ++ rest) =
      some (assetText name quoted, rest) :=
    assetConstant_eq_some_iff.mpr ⟨name, quoted, ended, h, rfl, hended, rfl⟩
  obtain ⟨c, hlast, -⟩ := getLast?_assetImport h ended
  obtain ⟨front', hfront'⟩ := hends.everywhere front none (Nat.zero_le _)
  have hne : assetImport name quoted ended ≠ [] := by
    intro hnil
    rw [hnil] at hlast
    cases hlast
  refine ⟨front', ?_⟩
  rw [hfront', Replacer.everywhere_of_match (hrule _) hne, Replacer.lastOf, hlast, Option.some_or,
    Replacer.everywhere_restart fun _ => rfl]

theorem assetText_append (name quoted rest : List Char) : assetText name quoted ++ rest =
    "const ".toList ++ (name ++ (" = ''; // ".toList ++ (quoted ++ rest))) := by
  unfold assetText
  simp only [List.append_assoc]

theorem getLast?_assetText (h : IsAsset name quoted) :
    ∃ c, (assetText name quoted).getLast? = some c ∧ isEnd c := by
  obtain ⟨path, hquoted, -⟩ := h.path
  have hsplit : assetText name quoted =
      "const ".toList ++ (name ++ " = ''; // ".toList) ++ (quoted ++ semicolon false) := by
    rw [assetText_eq, semicolon, if_neg Bool.false_ne_true, List.append_nil]
    simp only [List.append_assoc]
  rw [hsplit]
  exact hquoted.getLast? _ false

/-- A list of names has no equals sign, so it does not reach into a constant. -/
theorem apart_namesImport {names quoted' : List Char} {ended' : Bool} (h : IsAsset name quoted)
    (h' : IsNames names quoted') :
    Apart (namesImport names quoted' ended') ("const ".toList ++ (name ++ " =".toList)) := by
  obtain ⟨path, hquoted⟩ := h'.path
  have hsplit : namesImport names quoted' ended' = "import \x7b".toList ++
      (names ++ "\x7d from ".toList) ++ (quoted' ++ semicolon ended') := by
    unfold namesImport
    simp only [List.append_assoc]
  have himport : '=' ∉ "import \x7b".toList := by decide
  have hnames : '=' ∉ names := not_mem_of_class h'.names_class (by decide)
  have hfrom : '=' ∉ "\x7d from ".toList := by decide
  have hend : '=' ∉ quoted' ++ semicolon ended' := hquoted.not_mem_end (by decide) (by decide) _
  have hmem : '=' ∉ namesImport names quoted' ended' := by
    rw [hsplit]
    simp only [List.mem_append] at hend ⊢
    simp only [himport, hnames, hfrom, hend, or_self, not_false_eq_true]
  have hsign : '=' ∈ "const ".toList ++ (name ++ " =".toList) := by simp
  obtain ⟨c, hlast, hc⟩ := hquoted.getLast? ("import \x7b".toList ++ (names ++ "\x7d from ".toList))
    ended'
  rw [← hsplit] at hlast
  refine apart_of_absent (absent_of_not_mem hsign fun htail => hmem (List.mem_of_mem_tail htail))
    hlast fun hin => ?_
  have hclass := h.class_around "const ".toList " =".toList (by decide) (by decide) c hin
  rw [hclass] at hc
  cases hc

theorem everywhere_requiredNames (h : IsAsset name quoted) (front rest : List Char) :
    ∃ front', requiredNames.everywhere none 0 (front ++ (assetText name quoted ++ rest)) =
      front' ++ (assetText name quoted ++ requiredNames.everywhere none 0 rest) := by
  have hends : requiredNames.EndsBefore (assetText name quoted ++ rest) := by
    have hsplit : assetText name quoted ++ rest = ("const ".toList ++ (name ++ " =".toList)) ++
        (" ''; // ".toList ++ (quoted ++ rest)) := by
      rw [assetText_append, List.append_assoc, List.append_assoc]
      rfl
    rw [hsplit]
    refine Replacer.endsBefore_of_apart (fun hrule => ?_) _
    obtain ⟨names', quoted', ended', h', rfl, -, -⟩ := requiredNames_eq_some_iff.mp hrule
    exact ⟨_, apart_namesImport h h', rfl⟩
  have hsilent : requiredNames.Silent (assetText name quoted) rest := by
    refine Replacer.silent_of_absent ["import \x7b".toList] (fun hrule => ?_) ?_
    · obtain ⟨names', quoted', ended', -, rfl, -, -⟩ := requiredNames_eq_some_iff.mp hrule
      rw [namesImport_append]
      exact ⟨_, List.mem_singleton_self _, List.prefix_append _ _⟩
    · obtain ⟨c, hlast, hc⟩ := getLast?_assetText h
      intro head hhead
      rw [List.mem_singleton.mp hhead]
      have hclass : ∀ c ∈ "import \x7b".toList, isEnd c = false := by decide
      have hbrace : '\x7b' ∈ "import \x7b".toList := by decide
      refine absent_of_last hbrace ?_ hlast fun hmem => ?_
      · obtain ⟨path, hquoted, -⟩ := h.path
        have hconst : '\x7b' ∉ "const ".toList := by decide
        have hname : '\x7b' ∉ name := not_mem_of_class h.name_class (by decide)
        have hcomment : '\x7b' ∉ " = ''; // ".toList := by decide
        have hpath : '\x7b' ∉ quoted := hquoted.not_mem (by decide) (by decide)
        rw [assetText_eq]
        simp only [List.mem_append, hconst, hname, hcomment, hpath, or_self, not_false_eq_true]
      · rw [hclass c hmem] at hc
        cases hc
  obtain ⟨c, hlast, -⟩ := getLast?_assetText h
  obtain ⟨front', hfront'⟩ := Replacer.everywhere_around hends hsilent front none
  refine ⟨front', ?_⟩
  rw [hfront', Replacer.lastOf, hlast, Option.some_or, Replacer.everywhere_restart fun _ => rfl]

/-- The first default export of a line is before the constant of an image or after its path. -/
theorem replaceFirst_exportStart (h : IsAsset name quoted) (front rest : List Char) :
    (∃ front', replaceFirst exportStart.toList assignedExport.toList
      (front ++ (assetText name quoted ++ rest)) = front' ++ (assetText name quoted ++ rest)) ∨
    replaceFirst exportStart.toList assignedExport.toList
      (front ++ (assetText name quoted ++ rest)) = front ++ (assetText name quoted ++
        replaceFirst exportStart.toList assignedExport.toList rest) := by
  have hapart : Apart exportStart.toList "const ".toList := by decide
  have habsent : Absent exportStart.toList (assetText name quoted) rest := by
    have hconst : ∀ tail ∈ "const ".toList.tails, tail ≠ [] →
        ¬tail <+: exportStart.toList ∧ ¬exportStart.toList <+: tail := by decide
    have hcomment : ∀ tail ∈ " = ''; // ".toList.tails, tail ≠ [] →
        ¬tail <+: exportStart.toList ∧ ¬exportStart.toList <+: tail := by decide
    refine Absent.append (absent_of_block hconst _) (.append ?_
      ((absent_of_block hcomment _).append ?_))
    · -- a name `export` is followed by the sign and not by `default`
      have hword : ' ' ∉ "export".toList := by decide
      have hname : ' ' ∉ name := not_mem_of_class h.name_class (by decide)
      refine absent_of_past hword hname _ fun _ hleads => ?_
      exact absurd (List.cons_prefix_cons.mp hleads).1 (by decide)
    · obtain ⟨path, hquoted, -⟩ := h.path
      have hblank : ' ' ∈ exportStart.toList := by decide
      have hpath := hquoted.absent hblank (by decide) false rest
      rwa [semicolon, if_neg Bool.false_ne_true, List.append_nil] at hpath
  exact replaceFirst_around (by decide) hapart habsent front

end Passes

section Lines

variable {name quoted rest : List Char} {ended : Bool} {k : Nat}

/-- What comes after an import of an image does not begin with a semicolon after its exported
declarations were rewritten. -/
theorem head?_bareDeclaration (h : rest.head? ≠ some ';') :
    (bareDeclaration.everywhere none 0 rest).head? ≠ some ';' := by
  intro hhead
  have hstart : [';'] <+: rest := by
    have hlater : [';'] <+: bareDeclaration.everywhere none 0 rest := by
      obtain ⟨tail, htail⟩ := List.head?_eq_some_iff.mp hhead
      rw [htail]
      exact List.prefix_append [';'] tail
    refine Replacer.starts_of_everywhere (fun hrule => ?_) hlater
    have hwords : ∀ word ∈ declarationWords.map String.toList, word.head?.any (· ∉ [';']) := by
      decide
    simpa using exists_cons_of_head? (hwords _ (eq_of_bareDeclaration hrule).1)
  obtain ⟨tail, rfl⟩ := hstart
  exact h rfl

theorem dynamicLine_assetImport (h : IsAsset name quoted) (ended : Bool)
    (hended : ended = false → rest.head? ≠ some ';') (front : List Char) :
    ∃ front', dynamicLine (front ++ (assetImport name quoted ended ++ rest)) =
      front' ++ (assetText name quoted ++ dynamicLine rest) := by
  obtain ⟨front₁, hbare⟩ := everywhere_bareDeclaration h ended front rest
  obtain ⟨front₂, hasset⟩ := everywhere_assetConstant h
    (fun hfalse => head?_bareDeclaration (hended hfalse)) front₁
  obtain ⟨front₃, hnames⟩ := everywhere_requiredNames h front₂
    (assetConstant.everywhere none 0 (bareDeclaration.everywhere none 0 rest))
  exact ⟨front₃, by rw [dynamicLine, hbare, hasset, hnames, dynamicLine]⟩

theorem dynamicLine_eq_nil_iff (line : List Char) : dynamicLine line = [] ↔ line = [] := by
  refine ⟨fun h => ?_, fun h => by rw [h]; rfl⟩
  by_contra hline
  have bare := bareDeclaration_writes.everywhere_ne_nil none hline
  have assets := assetConstant_writes.everywhere_ne_nil none bare
  exact requiredNames_writes.everywhere_ne_nil none assets h

/-- The lines of a dynamic module: the first line with a default export has it replaced. -/
theorem getElem?_inFirst {α : Type} {p : α → Bool} {f : α → α} {xs : List α} {x : α}
    (h : xs[k]? = some x) : (inFirst p f xs)[k]? = some x ∨ (inFirst p f xs)[k]? = some (f x) := by
  induction xs generalizing k with
  | nil => cases h
  | cons y xs ih =>
    rw [inFirst]
    cases k with
    | zero =>
      obtain rfl : y = x := by simpa using h
      split
      · exact .inr rfl
      · exact .inl rfl
    | succ k =>
      rw [List.getElem?_cons_succ] at h
      split
      · exact .inl (by simpa using h)
      · simpa using ih h

/-- The import of an image becomes a constant and a comment on its line. The comment goes on with
whatever came after the import, so it holds the path alone exactly if the import was the last thing
on the line. -/
theorem comments_out_rest_of_line (code : String) (k : Nat) (front name quoted rest : List Char)
    (ended : Bool) (h : IsAsset name quoted) (hended : ended = false → rest.head? ≠ some ';')
    (hline : (pieces '\n' code.toList)[k]? =
      some (front ++ (assetImport name quoted ended ++ rest))) :
    ∃ front' rest', (pieces '\n' (inFormat code .dynamic).toList)[k]? =
        some (front' ++ (assetText name quoted ++ rest')) ∧
      (rest' = dynamicLine rest ∨
        rest' = replaceFirst exportStart.toList assignedExport.toList (dynamicLine rest)) ∧
      (rest' = [] ↔ rest = []) := by
  obtain ⟨front₁, hdynamic⟩ := dynamicLine_assetImport h ended hended front
  have hmap : ((pieces '\n' code.toList).map dynamicLine)[k]? =
      some (front₁ ++ (assetText name quoted ++ dynamicLine rest)) := by
    rw [List.getElem?_map, hline, Option.map_some, hdynamic]
  rw [inFormat, String.toList_ofList, pieces_asDynamic]
  rcases getElem?_inFirst (p := found (literal exportStart.toList) none)
    (f := replaceFirst exportStart.toList assignedExport.toList) hmap with hsame | hreplaced
  · exact ⟨front₁, dynamicLine rest, hsame, .inl rfl, dynamicLine_eq_nil_iff rest⟩
  · rcases replaceFirst_exportStart h front₁ (dynamicLine rest) with ⟨front₂, hbefore⟩ | hafter
    · rw [hbefore] at hreplaced
      exact ⟨front₂, dynamicLine rest, hreplaced, .inl rfl, dynamicLine_eq_nil_iff rest⟩
    · rw [hafter] at hreplaced
      refine ⟨front₁, _, hreplaced, .inr rfl, ?_⟩
      rw [← dynamicLine_eq_nil_iff rest]
      refine ⟨fun hnil => ?_, fun hnil => by rw [hnil]; rfl⟩
      by_contra hne
      exact replaceFirst_ne_nil hne (by decide) hnil

/-- A default export on the line of an import. -/
theorem comments_out_rest_of_line_with_default :
    let code := "import a from './a.png'; export default \x7b a \x7d"
    IsAsset "a".toList "'./a.png'".toList ∧
    (pieces '\n' code.toList)[0]? = some ([] ++ (assetImport "a".toList "'./a.png'".toList true ++
      " export default \x7b a \x7d".toList)) ∧
    ∃ front rest, (pieces '\n' (inFormat code .dynamic).toList)[0]? =
      some (front ++ (assetText "a".toList "'./a.png'".toList ++ rest)) ∧ rest ≠ [] := by
  intro code
  have h : IsAsset "a".toList "'./a.png'".toList :=
    ⟨by decide, by decide, "./a.png".toList,
      ⟨'\'', '\'', .inl rfl, .inl rfl, by decide, by decide, by decide⟩, by decide⟩
  have hline : (pieces '\n' code.toList)[0]? = some ([] ++ (assetImport "a".toList
      "'./a.png'".toList true ++ " export default \x7b a \x7d".toList)) := by
    decide
  obtain ⟨front, rest, hresult, -, hnil⟩ :=
    comments_out_rest_of_line code 0 [] _ _ _ true h nofun hline
  exact ⟨h, hline, front, rest, hresult, fun hrest => absurd (hnil.mp hrest) (by decide)⟩

/-- The call and the second constant of these lines are never reached. -/
theorem call_in_asset_comment :
    inFormat "import a from './a.png'; run()" .dynamic = "const a = ''; // './a.png' run()" ∧
    inFormat "import a from './a.png'; import b from './b.png';" .dynamic =
      "const a = ''; // './a.png' const b = ''; // './b.png'" := by
  constructor <;> decide

end Lines

end ComponentCompiler.Module
