import ComponentCompiler.Build.Script
import ComponentCompiler.Proofs.SourceMap.Produced

/-!
# The order of generated lines

Writing a map goes through its mappings line by line, so it needs generated lines that never
decrease. Reading, tracing through another map and the map of a single source give such maps
(`isOrdered_of_ofJson`, `isOrdered_merge`, `isOrdered_identity`). Composing does not: the lower map
is moved down by the lines of the upper text, whatever lines the upper map mentions, and so the
composed map is in order only if the two agree (`isOrdered_compose_iff`).
-/

namespace ComponentCompiler.SourceMap

section Lines

variable {component transpile map : SourceMap} {portion : String}

/-- The generated lines of the mappings, as they are stored. -/
def generatedLines (map : SourceMap) : List UInt32 := map.mappings.map Mapping.line

theorem isOrdered_iff : map.isOrdered ↔ map.generatedLines.Pairwise (· ≤ ·) := by
  rw [isOrdered, generatedLines]
  induction map.mappings with
  | nil => simp [isOrdered.go]
  | cons m ms ih =>
      cases ms with
      | nil => simp [isOrdered.go]
      | cons n rest =>
          rw [isOrdered.go, Bool.and_eq_true, ih, decide_eq_true_eq, List.map_cons, List.map_cons,
            List.pairwise_cons (a := m.line)]
          refine and_congr_left fun hrest => ?_
          constructor
          · intro hmn line hline
            rcases List.mem_cons.mp hline with rfl | hline
            · exact hmn
            · exact UInt32.le_trans hmn (List.rel_of_pairwise_cons hrest hline)
          · intro h
            exact h n.line List.mem_cons_self

/-- The lines of a merged map are lines of the second map, in their order. -/
theorem isOrdered_merge (h : transpile.isOrdered) : (merge component transpile).isOrdered := by
  have hlines : ∀ map : SourceMap, map.generatedLines = map.segments.map fun s => s.start.line := by
    intro map
    simp [generatedLines, segments, segment]
  rw [isOrdered_iff, generatedLines, List.pairwise_map] at h
  rw [isOrdered_iff, hlines, segments_merge, List.pairwise_map]
  refine List.Pairwise.filterMap _ (fun m n hmn s hs t ht => ?_) h
  obtain ⟨-, traced, source, -, -, rfl⟩ := tracedSegment_eq_some_iff.mp hs
  obtain ⟨-, traced', source', -, -, rfl⟩ := tracedSegment_eq_some_iff.mp ht
  exact hmn

/-- Appending puts the moved lines after those that are there. -/
theorem generatedLines_append (target map : SourceMap) (offset : UInt32) :
    (append target map offset).generatedLines =
      target.generatedLines ++ map.generatedLines.map (· + offset) := by
  simp [generatedLines, mappings_append, moved, Function.comp_def]

/-- Lines that are moved stay in order exactly if no two of them are moved past each other. -/
theorem pairwise_moved_iff {lines : List UInt32} (h : lines.Pairwise (· ≤ ·)) (offset : UInt32) :
    (lines.map (· + offset)).Pairwise (· ≤ ·) ↔
      ∀ line ∈ lines, ∀ line' ∈ lines, line ≤ line' → line + offset ≤ line' + offset := by
  rw [List.pairwise_map]
  constructor
  · intro hmoved line hline line' hline' hle
    obtain ⟨i, hi, rfl⟩ := List.mem_iff_getElem.mp hline
    obtain ⟨j, hj, rfl⟩ := List.mem_iff_getElem.mp hline'
    rw [List.pairwise_iff_getElem] at h hmoved
    rcases Nat.lt_trichotomy i j with hij | rfl | hji
    · exact hmoved i j hi hj hij
    · exact UInt32.le_refl _
    · rw [UInt32.le_antisymm hle (h j i hj hi hji)]
      exact UInt32.le_refl _
  · intro hmoved
    exact h.imp_of_mem fun ha hb hab => hmoved _ ha _ hb hab

/-- The generated lines of a map, if there is one. -/
def linesOf (map : Option SourceMap) : List UInt32 := (map.map generatedLines).getD []

theorem pairwise_linesOf {map : Option SourceMap} (h : ∀ m ∈ map, m.isOrdered) :
    (linesOf map).Pairwise (· ≤ ·) := by
  cases map with
  | none => exact .nil
  | some m => exact isOrdered_iff.mp (h m rfl)

/-- A composed map has the lines of the upper map and, moved down, those of the lower one. -/
theorem generatedLines_compose {script template : Option SourceMap}
    (h : compose script template portion = some map) : map.generatedLines =
      linesOf script ++ (linesOf template).map (· + lineOffset portion) := by
  have hempty : ∀ file, (empty file).generatedLines = [] := fun _ => rfl
  cases template with
  | none =>
      obtain rfl : script = some map := h
      exact (List.append_nil _).symm
  | some template =>
      cases script with
      | none =>
          rw [compose] at h
          split at h
          · rename_i hoffset
            cases h
            simp [linesOf, hoffset]
          · cases h
            rw [generatedLines_append, hempty]
            rfl
      | some script =>
          cases h
          rw [generatedLines_append, generatedLines_append, hempty, List.nil_append]
          simp [linesOf]

/-- What the maps of a script are brought together to is in order. -/
theorem isOrdered_mergedMap {component transpile : Option SourceMap}
    (hcomponent : ∀ m ∈ component, m.isOrdered) (htranspile : ∀ m ∈ transpile, m.isOrdered) :
    ∀ m ∈ ScriptPart.mergedMap component transpile, m.isOrdered := by
  cases transpile with
  | none =>
      cases component with
      | none => exact hcomponent
      | some component => exact hcomponent
  | some transpile =>
      cases component with
      | none => exact htranspile
      | some component =>
          intro m hm
          obtain rfl := Option.mem_some_iff.mp hm
          exact isOrdered_merge (htranspile transpile rfl)

/-- Lines that are moved down by an offset come after the lines above them, in their order. -/
def LinedUp (upper lower : List UInt32) (offset : UInt32) : Prop :=
  (∀ line ∈ upper, ∀ line' ∈ lower, line ≤ line' + offset) ∧
    ∀ line ∈ lower, ∀ line' ∈ lower, line ≤ line' → line + offset ≤ line' + offset

/-- A composed map is in order exactly if no mapping of the script lies below one of the template,
and no two lines of the template are moved past each other. -/
theorem isOrdered_compose_iff {script template : Option SourceMap}
    (hscript : ∀ m ∈ script, m.isOrdered) (htemplate : ∀ m ∈ template, m.isOrdered)
    (h : compose script template portion = some map) :
    map.isOrdered ↔ LinedUp (linesOf script) (linesOf template) (lineOffset portion) := by
  rw [isOrdered_iff, generatedLines_compose h, List.pairwise_append,
    pairwise_moved_iff (pairwise_linesOf htemplate), LinedUp]
  simp only [pairwise_linesOf hscript, true_and, List.forall_mem_map]
  exact and_comm

end Lines

section Read

variable {bounds : Bounds} {document : Json} {parts : Parts} {map : SourceMap}

theorem line_of_mappingOf {line column : UInt32} {isRange : Bool} {cursor after : Cursor}
    {numbers : List Int} {m : Mapping}
    (h : mappingOf bounds line column isRange cursor numbers = .ok (m, after)) : m.line = line := by
  unfold mappingOf at h
  split at h
  · cases h
    rfl
  · obtain ⟨known, -, h⟩ := bind_eq_ok h
    cases h
    rfl
  · obtain ⟨known, -, h⟩ := bind_eq_ok h
    obtain ⟨knownName, -, h⟩ := bind_eq_ok h
    cases h
    rfl
  · cases h

theorem line_of_lineMappings {line column : UInt32} {cursor after : Cursor}
    {segments : List (List Char × Bool)} {ms : List Mapping}
    (h : lineMappings bounds line column cursor segments = .ok (ms, after)) :
    ∀ m ∈ ms, m.line = line := by
  fun_induction lineMappings bounds line column cursor segments generalizing ms after with
  | case1 =>
      cases h
      exact List.forall_mem_nil _
  | case2 column cursor isRange rest ih => exact ih h
  | case3 column cursor segment isRange rest hne ih =>
      obtain ⟨numbers, -, h⟩ := bind_eq_ok h
      obtain ⟨⟨mapping, next⟩, hmapping, h⟩ := bind_eq_ok h
      obtain ⟨⟨more, last⟩, hmore, h⟩ := bind_eq_ok h
      cases h
      exact List.forall_mem_cons.mpr ⟨line_of_mappingOf hmapping, ih _ _ hmore⟩

/-- The mappings of the lines from one on lie on these lines, in their order. -/
theorem pairwise_linesMappings {line : Nat} {cursor : Cursor} {texts ranges : List (List Char)}
    {ms : List Mapping} (h : linesMappings bounds line cursor texts ranges = .ok ms)
    (few : line + texts.length ≤ 2 ^ 32) :
    (∀ m ∈ ms, line ≤ m.line.toNat) ∧ ms.Pairwise fun m n => m.line ≤ n.line := by
  fun_induction linesMappings bounds line cursor texts ranges generalizing ms with
  | case1 =>
      cases h
      exact ⟨List.forall_mem_nil _, .nil⟩
  | case2 line cursor text rest ranges hempty ih =>
      rw [List.length_cons] at few
      obtain ⟨hline, hordered⟩ := ih h (by omega)
      exact ⟨fun m hm => Nat.le_of_succ_le (hline m hm), hordered⟩
  | case3 line cursor text rest ranges hfilled ih =>
      rw [List.length_cons] at few
      obtain ⟨flags, -, h⟩ := bind_eq_ok h
      obtain ⟨⟨here, next⟩, hhere, h⟩ := bind_eq_ok h
      obtain ⟨more, hmore, h⟩ := bind_eq_ok h
      cases h
      obtain ⟨hline, hordered⟩ := ih _ hmore (by omega)
      have hlineHere : ∀ m ∈ here, m.line.toNat = line := by
        intro m hm
        rw [line_of_lineMappings hhere m hm, UInt32.toNat_ofNat_of_lt' (by rw [UInt32.size]; omega)]
      constructor
      · intro m hm
        rcases List.mem_append.mp hm with hm | hm
        · exact Nat.le_of_eq (hlineHere m hm).symm
        · exact Nat.le_of_succ_le (hline m hm)
      · refine List.pairwise_append.mpr ⟨?_, hordered, ?_⟩
        · refine List.pairwise_of_forall_mem_list fun m hm n hn => ?_
          rw [UInt32.le_iff_toNat_le]
          exact Nat.le_of_eq ((hlineHere m hm).trans (hlineHere n hn).symm)
        · intro m hm n hn
          rw [UInt32.le_iff_toNat_le, hlineHere m hm]
          exact Nat.le_of_succ_le (hline n hn)

/-- A map that is read is in order, if its lines can be counted. -/
theorem isOrdered_of_ofJson (h : ofJson document = .ok map) (hparts : parts? document = some parts)
    (few : (Text.pieces ';' parts.mappings.toList).length ≤ 2 ^ 32) : map.isOrdered := by
  obtain ⟨found, hfound, hmap⟩ := exists_parts_of_ofJson h
  obtain rfl : found = parts := Option.some.inj (hfound.symm.trans hparts)
  obtain ⟨mappings, hmappings, hmap⟩ := bind_eq_ok hmap
  cases hmap
  exact isOrdered_iff.mpr (List.pairwise_map.mpr (pairwise_linesMappings hmappings (by omega)).2)

/-- The map of a single source is in order, if its lines can be counted. -/
theorem isOrdered_identity {file content : String}
    (few : (Text.pieces '\n' content.toList).length ≤ 2 ^ 32) :
    (identity file content).isOrdered := by
  have hgo : ∀ number lines, number + lines.length ≤ 2 ^ 32 →
      (∀ m ∈ identity.go number lines, number ≤ m.line.toNat) ∧
        (identity.go number lines).Pairwise fun m n => m.line ≤ n.line := by
    intro number lines hlines
    fun_induction identity.go number lines with
    | case1 => exact ⟨List.forall_mem_nil _, .nil⟩
    | case2 number line rest hblank ih =>
        rw [List.length_cons] at hlines
        obtain ⟨hline, hordered⟩ := ih (by omega)
        exact ⟨fun m hm => Nat.le_of_succ_le (hline m hm), hordered⟩
    | case3 number line rest here hblank ih =>
        rw [List.length_cons] at hlines
        obtain ⟨hline, hordered⟩ := ih (by omega)
        have hhere : here.toNat = number :=
          UInt32.toNat_ofNat_of_lt' (by rw [UInt32.size]; omega)
        refine ⟨List.forall_mem_cons.mpr ⟨Nat.le_of_eq hhere.symm, fun m hm =>
          Nat.le_of_succ_le (hline m hm)⟩, List.pairwise_cons.mpr ⟨fun m hm => ?_, hordered⟩⟩
        rw [UInt32.le_iff_toNat_le, hhere]
        exact Nat.le_of_succ_le (hline m hm)
  exact isOrdered_iff.mpr (List.pairwise_map.mpr (hgo 0 _ (by omega)).2)

end Read

end ComponentCompiler.SourceMap
