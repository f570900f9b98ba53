import ComponentCompiler.Proofs.SourceMap.Compose
import ComponentCompiler.Proofs.SourceMap.Dropping
import ComponentCompiler.SourceMap.Decode

/-!
# Ranges of maps one below the other

Inside a range segment the columns of the source run along with those of the generated text. A map
that is put together from two keeps no ranges: it traces as its halves do when all their segments
are flat (`trace_compose_flat`). So a position inside a range segment traces to the start of the
segment's source, and keeps its column only where that makes no difference
(`column_of_compose_iff`).
-/

namespace ComponentCompiler

namespace Mapping

/-- The mapping of a segment of which every column comes from the start of its source. -/
def flat (m : Mapping) : Mapping := { m with isRange := false }

@[simp] theorem flat_order (m : Mapping) : m.flat.order = m.order := rfl

@[simp] theorem flat_line (m : Mapping) : m.flat.line = m.line := rfl

theorem columnAt_flat (m : Mapping) (column : UInt32) : m.flat.columnAt column = m.sourceColumn :=
  columnAt_of_plain rfl column

/-- A column of a segment comes from the start of its source where the segment is no range, at the
start of the segment, and where no later column can be told. -/
theorem columnAt_eq_start_iff {m : Mapping} {column : UInt32} (h : m.column ≤ column) :
    m.columnAt column = m.sourceColumn ↔
      m.isRange = false ∨ column = m.column ∨ m.sourceColumn.toNat = 2 ^ 32 - 1 := by
  cases hrange : m.isRange with
  | false => simp [columnAt, hrange]
  | true =>
      have hle : m.column.toNat ≤ column.toNat := h
      have hbound := m.sourceColumn.toNat_lt
      have hmin : min (m.sourceColumn.toNat + (column.toNat - m.column.toNat)) (2 ^ 32 - 1) <
          2 ^ 32 := by omega
      have hcolumn : column = m.column ↔ column.toNat = m.column.toNat := UInt32.toNat_inj.symm
      rw [columnAt, if_pos hrange, ← UInt32.toNat_inj, UInt32.toNat_ofNat_of_lt' hmin, hcolumn]
      simp only [Bool.true_eq_false, false_or]
      omega

end Mapping

theorem Segment.down_zero_down (s : Segment) (offset : UInt32) :
    (s.down 0).down offset = s.down offset := by
  have hline : s.start.line + 0 + offset = s.start.line + offset := by rw [UInt32.add_zero]
  rw [Segment.down, Segment.down_line, hline]
  rfl

namespace SourceMap

/-- A map without its ranges. -/
def flat (map : SourceMap) : SourceMap := { map with mappings := map.mappings.map Mapping.flat }

section Flat

variable (map : SourceMap)

theorem plain_flat : ∀ m ∈ map.flat.mappings, m.isRange = false := by
  simp [flat, Mapping.flat]

theorem segments_flat : map.flat.segments = map.segments.map (Segment.down 0) := by
  rw [segments, segments, flat, List.map_map, List.map_map]
  refine List.map_congr_left fun m _ => ?_
  have hline : m.line = m.line + 0 := (UInt32.add_zero m.line).symm
  exact congrArg (fun line => Segment.mk
    { m with line, source := none, name := none, isRange := false } (map.sourceOf m)
    (map.nameOf m)) hline

/-- A map without ranges is moved down like the map itself. -/
theorem map_down_flat (offset : UInt32) :
    map.flat.segments.map (Segment.down offset) = map.segments.map (Segment.down offset) := by
  rw [segments_flat, List.map_map]
  exact List.map_congr_left fun s _ => s.down_zero_down offset

theorem covering_flat (line column : UInt32) :
    map.flat.covering line column = (map.covering line column).map Mapping.flat := by
  have hnear (place : Nat) (m : Mapping) : Nearest Mapping.order map.flat.mappings place m ↔
      ∃ n, Nearest Mapping.order map.mappings place n ∧ n.flat = m :=
    Nearest.map_iff (d := 0) fun n _ => by simp
  ext m
  rw [covering_eq_some_iff, hnear, Option.map_eq_some_iff]
  constructor
  · rintro ⟨⟨n, hn, rfl⟩, hsource, hline⟩
    exact ⟨n, covering_eq_some_iff.mpr ⟨hn, hsource, hline⟩, rfl⟩
  · rintro ⟨n, hn, rfl⟩
    obtain ⟨hn, hsource, hline⟩ := covering_eq_some_iff.mp hn
    exact ⟨⟨n, hn, rfl⟩, hsource, hline⟩

variable {map}

/-- A position that is covered traces to the place of its column in the segment, and without ranges
to the start of the segment's source. Both fail if there is no line after the last one. -/
theorem trace_of_covering {line column : UInt32} {m : Mapping} (hline : line ≠ 0)
    (covered : map.covering (line - 1) column = some m) :
    if m.sourceLine.toNat + 1 = 2 ^ 32 then
      map.trace line column = none ∧ map.flat.trace line column = none
    else
      ∃ location, map.trace line column = some (some location) ∧
        location.column = m.columnAt column ∧
        map.flat.trace line column = some (some { location with column := m.sourceColumn }) := by
  have covered' : map.flat.covering (line - 1) column = some m.flat := by
    rw [covering_flat, covered, Option.map_some]
  obtain ⟨source, hsource, hlocate⟩ := locate_of_covering covered
  obtain ⟨source', hsource', hlocate'⟩ := locate_of_covering covered'
  obtain rfl : source = source' := Option.some.inj (hsource.symm.trans hsource')
  rw [Mapping.columnAt_flat] at hlocate'
  simp only [trace_of_ne_zero hline, traceAt_of_covering covered, traceAt_of_covering covered',
    hlocate, hlocate']
  have hbound := m.sourceLine.toNat_lt
  split
  · have hnone : wordSum? m.sourceLine 1 = none := by
      rw [wordSum?_eq_none_iff, UInt32.toNat_one]
      omega
    exact ⟨congrArg _ hnone, congrArg _ hnone⟩
  · have hnext : wordSum? m.sourceLine 1 = some (m.sourceLine + 1) := by
      refine wordSum?_of_lt ?_
      rw [UInt32.toNat_one]
      omega
    exact ⟨⟨source, m.sourceLine + 1, m.columnAt column, map.nameOf m⟩, congrArg _ hnext, rfl,
      congrArg _ hnext⟩

end Flat

section Compose

variable {script : Option SourceMap} {template : SourceMap} {portion : String}
  {line column : UInt32}

/-- The half of a composed map that a line belongs to, and the number of the line there. -/
def half (script : Option SourceMap) (template : SourceMap) (portion : String) (line : UInt32) :
    SourceMap × UInt32 :=
  if line ≤ lineOffset portion then (script.getD (empty none), line)
  else (template, line - lineOffset portion)

theorem half_line_ne_zero (hline : line ≠ 0) : (half script template portion line).2 ≠ 0 := by
  rw [half]
  split_ifs with hle
  · exact hline
  · intro hzero
    have hlt : (lineOffset portion).toNat < line.toNat := UInt32.not_le.mp hle
    have hdiff := UInt32.toNat_sub_of_le _ _ (UInt32.le_of_lt (UInt32.not_le.mp hle))
    have hnone : (line - lineOffset portion).toNat = 0 := congrArg UInt32.toNat hzero
    omega

/-- A map that is put together from two traces like its halves without their ranges. -/
theorem trace_compose_flat (moves : script.isSome ∨ lineOffset portion ≠ 0)
    (above : ∀ map ∈ script, ∀ m ∈ map.mappings, m.line < lineOffset portion)
    (fits : ∀ m ∈ template.mappings, m.line.toNat + (lineOffset portion).toNat < 2 ^ 32)
    (line column : UInt32) :
    ∃ map, compose script (some template) portion = some map ∧ map.trace line column =
      (half script template portion line).1.flat.trace (half script template portion line).2
        column := by
  have hscript : (script.elim [] fun map => map.segments.map (Segment.down 0)) =
      (script.getD (empty none)).flat.segments := by
    cases script with
    | none => rfl
    | some script => exact (segments_flat script).symm
  have habove : ∀ m ∈ (script.getD (empty none)).flat.mappings, m.line < lineOffset portion := by
    cases script with
    | none => simp [flat, empty]
    | some script => simpa [flat] using above script rfl
  obtain ⟨map, hmap, split⟩ := segments_compose moves
  rw [hscript, ← map_down_flat] at split
  refine ⟨map, hmap, ?_⟩
  rw [trace_halves split habove (plain_flat template) (by simpa [flat] using fits), half]
  split <;> rfl

/-- Where a position is covered in its half of a composed map, both trace it to the same line of the
same source, unless it comes from the last line there is: then both fail. They tell the same column
unless the map was put together and the position lies inside a range: then the composed map tells
the column of the segment's start, whatever comes after. -/
theorem column_of_compose_iff (script : Option SourceMap) (template : SourceMap) (portion : String)
    (above : ∀ map ∈ script, ∀ m ∈ map.mappings, m.line < lineOffset portion)
    (fits : ∀ m ∈ template.mappings, m.line.toNat + (lineOffset portion).toNat < 2 ^ 32)
    {line column : UInt32} (hline : line ≠ 0) {m : Mapping}
    (covered : (half script template portion line).1.covering
      ((half script template portion line).2 - 1) column = some m) :
    ∃ map, compose script (some template) portion = some map ∧
      if m.sourceLine.toNat + 1 = 2 ^ 32 then
        (half script template portion line).1.trace (half script template portion line).2 column =
          none ∧ map.trace line column = none
      else
        ∃ location traced,
          (half script template portion line).1.trace (half script template portion line).2
            column = some (some location) ∧
          map.trace line column = some (some traced) ∧
          traced = { location with column := traced.column } ∧
          (traced.column =
            if script.isSome ∨ lineOffset portion ≠ 0 then m.sourceColumn else location.column) ∧
          (traced.column = location.column ↔
            (script = none ∧ lineOffset portion = 0) ∨ m.isRange = false ∨ column = m.column ∨
              m.sourceColumn.toNat = 2 ^ 32 - 1) := by
  have htraces := trace_of_covering (half_line_ne_zero hline) covered
  by_cases moves : script.isSome ∨ lineOffset portion ≠ 0
  · obtain ⟨hnear, -, hmline⟩ := covering_eq_some_iff.mp covered
    have hle : m.column ≤ column := (Mapping.order_le_iff_of_line hmline).mp hnear.le
    have hmoves : ¬ (script = none ∧ lineOffset portion = 0) := by
      rintro ⟨hnone, hzero⟩
      simp [hnone, hzero] at moves
    obtain ⟨map, hmap, hcomposed⟩ := trace_compose_flat moves above fits line column
    refine ⟨map, hmap, ?_⟩
    rw [hcomposed]
    split at htraces
    · rwa [if_pos ‹_›]
    · rw [if_neg ‹_›]
      obtain ⟨location, htrace, hcolumn, hflat⟩ := htraces
      refine ⟨location, _, htrace, hflat, rfl, (if_pos moves).symm, ?_⟩
      rw [or_iff_right hmoves, ← Mapping.columnAt_eq_start_iff hle, ← hcolumn]
      exact eq_comm
  · obtain ⟨rfl, hoffset⟩ : script = none ∧ lineOffset portion = 0 := by
      simpa [not_or] using moves
    -- The map of the template is handed on as it is.
    have hsame : (half none template portion line).1.trace (half none template portion line).2
        column = template.trace line column := by
      rw [half, if_neg fun hle => hline (UInt32.le_zero_iff.mp (hoffset ▸ hle)), hoffset,
        UInt32.sub_zero]
    rw [hsame] at htraces
    refine ⟨template, if_pos hoffset, ?_⟩
    rw [hsame]
    split at htraces
    · rw [if_pos ‹_›]
      exact ⟨htraces.1, htraces.1⟩
    · rw [if_neg ‹_›]
      obtain ⟨location, htrace, -, -⟩ := htraces
      exact ⟨location, location, htrace, htrace, rfl, (if_neg moves).symm,
        iff_of_true rfl (.inl ⟨rfl, hoffset⟩)⟩

/-- Below a script of two lines, the fifth column of a range in a template traces to the start of
the range. By the template's map alone it traces five columns further. -/
theorem column_of_compose_iff_of_template :
    let script : SourceMap :=
      { rawSources := ["a.ts"], mappings := [⟨1, 0, 4, 2, some 0, none, true⟩] }
    let template : SourceMap :=
      { rawSources := ["b.vue"], mappings := [⟨0, 4, 7, 10, some 0, none, true⟩] }
    template.trace 1 9 = some (some ⟨"b.vue", 8, 15, none⟩) ∧
      ∃ map, compose (some script) (some template) "let a\n" = some map ∧
        map.trace 3 9 = some (some ⟨"b.vue", 8, 10, none⟩) := by
  intro script template
  have halone : template.trace 1 9 = some (some ⟨"b.vue", 8, 15, none⟩) := by decide
  have covered : (half (some script) template "let a\n" 3).1.covering
      ((half (some script) template "let a\n" 3).2 - 1) 9 =
        some ⟨0, 4, 7, 10, some 0, none, true⟩ := by decide
  obtain ⟨map, hmap, htraces⟩ :=
    column_of_compose_iff (some script) template "let a\n" (by decide) (by decide) (by decide)
      covered
  rw [if_neg (by decide)] at htraces
  obtain ⟨location, traced, hlocation, htraced, hsame, hcolumn, -⟩ := htraces
  obtain rfl := Option.some.inj (Option.some.inj (halone.symm.trans hlocation))
  refine ⟨halone, map, hmap, ?_⟩
  rw [htraced, hsame, hcolumn]
  decide

/-- The document of a map with one mapping, at the start of the text, and range flags. -/
def oneMapping (ranges : String) : Json :=
  .object [("version", .integer 3), ("sources", .array [.text "App.vue"]), ("names", .array []),
    ("mappings", .text "AAAA"), ("rangeMappings", .text ranges)]

/-- A script whose text is a range traces its fifth column to the fifth column of the source. With a
template below it traces to the first one. -/
theorem column_lost_in_range :
    ∃ script template map, ofJson (oneMapping "B") = .ok script ∧
      ofJson (oneMapping "") = .ok template ∧
      (∀ m ∈ script.mappings, m.line < lineOffset "a") ∧
      script.covering 0 5 = some ⟨0, 0, 0, 0, some 0, none, true⟩ ∧
      script.trace 1 5 = some (some ⟨"App.vue", 1, 5, none⟩) ∧
      compose (some script) (some template) "a" = some map ∧
      map.trace 1 5 = some (some ⟨"App.vue", 1, 0, none⟩) := by
  refine ⟨{ rawSources := ["App.vue"], mappings := [⟨0, 0, 0, 0, some 0, none, true⟩] },
    { rawSources := ["App.vue"], mappings := [⟨0, 0, 0, 0, some 0, none, false⟩] }, _,
    by rfl, by rfl, by decide, by decide, by decide, rfl, by decide⟩

end Compose

end SourceMap
end ComponentCompiler
