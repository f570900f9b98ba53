import ComponentCompiler.Proofs.SourceMap.Dropping
import ComponentCompiler.Proofs.SourceMap.Produced
import Mathlib.Data.List.Basic

/-!
# Lines of the sources

The text of a map does not name the lines of its sources. Each segment says how far its line lies
from the line before, and the sum is kept in 32 bits (`sourceLine_of_ofJson`). Lines are counted
from zero there and from one by tracing, which adds one. Of all sums and differences in tracing this
one alone can leave the 32 bits, and it does so on the last line there is. So tracing by a map that
is read fails wherever its differences add up to one less than a multiple of 2^32, and nowhere else
(`line_of_decoded`).
-/

namespace ComponentCompiler

-- Sums of integers start from the core library's zero, whatever else is imported.
attribute [local instance (20000)] Zero.ofOfNat0

namespace SourceMap

section Sums

theorem toNat_advance (x : UInt32) (delta : Int) :
    ((advance x delta).toNat : Int) = (x.toNat + delta) % 2 ^ 32 := by
  have hnonneg : 0 ≤ ((x.toNat : Int) + delta) % 2 ^ 32 := Int.emod_nonneg _ (by decide)
  have hlt : ((x.toNat : Int) + delta) % 2 ^ 32 < 2 ^ 32 := Int.emod_lt_of_pos _ (by decide)
  rw [advance, UInt32.toNat_ofNat_of_lt' (by rw [UInt32.size]; omega), Int.toNat_of_nonneg hnonneg]

theorem advance_zero (x : UInt32) : advance x 0 = x := by
  have h := toNat_advance x 0
  have hx := x.toNat_lt
  exact UInt32.toNat_inj.mp (by omega)

/-- Moving on by differences one by one is moving on by their sum. -/
theorem toNat_foldl_advance (x : UInt32) (deltas : List Int) :
    ((deltas.foldl advance x).toNat : Int) = (x.toNat + deltas.sum) % 2 ^ 32 := by
  induction deltas generalizing x with
  | nil =>
      have hx := x.toNat_lt
      rw [List.foldl_nil, List.sum_nil]
      omega
  | cons delta deltas ih =>
      rw [List.foldl_cons, ih, toNat_advance, List.sum_cons, Int.emod_add_emod, Int.add_assoc]

/-- How far the numbers of a segment move the line of the source on. -/
def lineDelta (numbers : List Int) : Int := numbers.getD 2 0

/-- The line of the source after a number of segments, were it not kept in 32 bits. -/
def lineAfter (numbers : List (List Int)) (count : Nat) : Int :=
  ((numbers.take count).map lineDelta).sum

/-- The lines of the sources that segments lead to, from a line on. -/
def linesAfter (line : UInt32) (numbers : List (List Int)) : List UInt32 :=
  ((numbers.map lineDelta).scanl advance line).tail

/-- The line of the source behind segments. -/
def lineBehind (line : UInt32) (numbers : List (List Int)) : UInt32 :=
  (numbers.map lineDelta).foldl advance line

theorem linesAfter_cons (line : UInt32) (numbers : List Int) (rest : List (List Int)) :
    linesAfter line (numbers :: rest) = advance line (lineDelta numbers) ::
      linesAfter (advance line (lineDelta numbers)) rest := by
  cases rest <;> simp [linesAfter, List.scanl_cons]

theorem linesAfter_append (line : UInt32) (front back : List (List Int)) :
    linesAfter line (front ++ back) =
      linesAfter line front ++ linesAfter (lineBehind line front) back := by
  induction front generalizing line with
  | nil => rfl
  | cons numbers front ih =>
      rw [List.cons_append, linesAfter_cons, linesAfter_cons, ih, List.cons_append]
      rfl

theorem length_linesAfter (line : UInt32) (numbers : List (List Int)) :
    (linesAfter line numbers).length = numbers.length := by
  simp [linesAfter]

/-- Each line is the sum of the differences up to it, in 32 bits. -/
theorem toNat_of_linesAfter {line word : UInt32} {numbers : List (List Int)} {k : Nat}
    (h : (linesAfter line numbers)[k]? = some word) :
    (word.toNat : Int) = (line.toNat + lineAfter numbers (k + 1)) % 2 ^ 32 := by
  rw [linesAfter, List.getElem?_tail, List.getElem?_scanl] at h
  split at h
  · cases h
    rw [toNat_foldl_advance, lineAfter, List.map_take]
  · cases h

end Sums

section Read

variable {bounds : Bounds}

/-- A segment moves the line of the source on by its difference. -/
theorem sourceLine_of_mappingOf {line column : UInt32} {isRange : Bool} {cursor next : Cursor}
    {numbers : List Int} {m : Mapping}
    (h : mappingOf bounds line column isRange cursor numbers.tail = .ok (m, next)) :
    m.sourceLine = advance cursor.sourceLine (lineDelta numbers) ∧
      next.sourceLine = m.sourceLine := by
  match numbers, h with
  | [], h | [_], h =>
      cases h
      exact ⟨(advance_zero _).symm, rfl⟩
  | [_, source, sourceLine, sourceColumn], h =>
      obtain ⟨known, -, h⟩ := bind_eq_ok h
      cases h
      exact ⟨rfl, rfl⟩
  | [_, source, sourceLine, sourceColumn, name], h =>
      obtain ⟨known, -, h⟩ := bind_eq_ok h
      obtain ⟨knownName, -, h⟩ := bind_eq_ok h
      cases h
      exact ⟨rfl, rfl⟩
  | [_, _], h | [_, _, _], h | _ :: _ :: _ :: _ :: _ :: _ :: _, h => cases h

/-- Whether a segment is written at all. -/
def isWritten (segment : List Char) : Bool := !segment.isEmpty

/-- The texts of the segments of lines, one after the other. -/
def segmentTexts (lines : List (List Char)) : List (List Char) :=
  (lines.flatMap (Text.pieces ',')).filter isWritten

/-- The lines of the sources are those that the segments of a line lead to. -/
theorem sourceLine_of_lineMappings {line column : UInt32} {cursor after : Cursor}
    {segments : List (List Char × Bool)} {ms : List Mapping}
    (h : lineMappings bounds line column cursor segments = .ok (ms, after)) :
    ∃ numbers, ((segments.map Prod.fst).filter isWritten).mapM Vlq.decode = .ok numbers ∧
      ms.map Mapping.sourceLine = linesAfter cursor.sourceLine numbers ∧
      after.sourceLine = lineBehind cursor.sourceLine numbers := by
  fun_induction lineMappings bounds line column cursor segments generalizing ms after with
  | case1 =>
      cases h
      exact ⟨[], rfl, rfl, rfl⟩
  | case2 column cursor isRange rest ih => exact ih h
  | case3 column cursor segment isRange rest hne ih =>
      obtain ⟨numbers, hnumbers, h⟩ := bind_eq_ok h
      obtain ⟨⟨mapping, next⟩, hmapping, h⟩ := bind_eq_ok h
      obtain ⟨⟨more, last⟩, hmore, h⟩ := bind_eq_ok h
      cases h
      obtain ⟨hline, hnext⟩ := sourceLine_of_mappingOf hmapping
      obtain ⟨later, hlater, hlines, hbehind⟩ := ih _ _ hmore
      have hwritten : isWritten segment := by simpa [isWritten] using hne
      refine ⟨numbers :: later, ?_, ?_, ?_⟩
      · rw [List.map_cons, List.filter_cons_of_pos hwritten, List.mapM_cons, hnumbers, hlater]
        rfl
      · rw [List.map_cons, hlines, hnext, hline, linesAfter_cons]
      · rw [hbehind, hnext, hline]
        rfl

theorem map_fst_withFlags (segments : List (List Char)) (flags : List Bool) :
    (withFlags segments flags).map Prod.fst = segments := by
  fun_induction withFlags segments flags with
  | case1 => rfl
  | case2 segment rest ih => rw [List.map_cons, ih]
  | case3 segment rest flag flags ih => rw [List.map_cons, ih]

theorem sourceLine_of_linesMappings {line : Nat} {cursor : Cursor}
    {lines ranges : List (List Char)} {ms : List Mapping}
    (h : linesMappings bounds line cursor lines ranges = .ok ms) :
    ∃ numbers, (segmentTexts lines).mapM Vlq.decode = .ok numbers ∧
      ms.map Mapping.sourceLine = linesAfter cursor.sourceLine numbers := by
  fun_induction linesMappings bounds line cursor lines ranges generalizing ms with
  | case1 =>
      cases h
      exact ⟨[], rfl, rfl⟩
  | case2 line cursor text rest ranges hempty ih =>
      obtain rfl : text = [] := List.isEmpty_iff.mp hempty
      exact ih h
  | case3 line cursor text rest ranges hfilled ih =>
      obtain ⟨flags, -, h⟩ := bind_eq_ok h
      obtain ⟨⟨here, next⟩, hhere, h⟩ := bind_eq_ok h
      obtain ⟨more, hmore, h⟩ := bind_eq_ok h
      cases h
      obtain ⟨front, hfront, hlines, hbehind⟩ := sourceLine_of_lineMappings hhere
      obtain ⟨back, hback, hmores⟩ := ih _ hmore
      rw [map_fst_withFlags] at hfront
      refine ⟨front ++ back, ?_, ?_⟩
      · rw [segmentTexts, List.flatMap_cons, List.filter_append, List.mapM_append, hfront]
        change (segmentTexts rest).mapM Vlq.decode >>= _ = _
        rw [hback]
        rfl
      · rw [List.map_append, hlines, hmores, hbehind, linesAfter_append]

/-- Each mapping of a map that is read lies on the line that the differences up to it add up to, in
32 bits. -/
theorem sourceLine_of_ofJson {document : Json} {map : SourceMap} (h : ofJson document = .ok map) :
    ∃ parts numbers, parts? document = some parts ∧
      (segmentTexts (Text.pieces ';' parts.mappings.toList)).mapM Vlq.decode = .ok numbers ∧
      numbers.length = map.mappings.length ∧
      ∀ k m, map.mappings[k]? = some m →
        (m.sourceLine.toNat : Int) = lineAfter numbers (k + 1) % 2 ^ 32 := by
  obtain ⟨parts, hparts, hmap⟩ := exists_parts_of_ofJson h
  obtain ⟨mappings, hmappings, hmap⟩ := bind_eq_ok hmap
  cases hmap
  obtain ⟨numbers, hnumbers, hlines⟩ := sourceLine_of_linesMappings hmappings
  have hcount : numbers.length = mappings.length := by
    rw [← length_linesAfter 0 numbers, ← List.length_map Mapping.sourceLine, hlines]
  refine ⟨parts, numbers, hparts, hnumbers, hcount, fun k m hm => ?_⟩
  have hk : (linesAfter 0 numbers)[k]? = some m.sourceLine := by
    change (linesAfter ({} : Cursor).sourceLine numbers)[k]? = _
    rw [← hlines, List.getElem?_map, hm, Option.map_some]
  have hsum := toNat_of_linesAfter hk
  rwa [show (0 : UInt32).toNat = 0 from rfl, Int.natCast_zero, Int.zero_add] at hsum

/-- A map that is read traces a position to the line after that of the mapping that covers it, and a
position that none covers to nothing. The sum overflows exactly where the differences up to the
mapping add up to one less than a multiple of 2^32. Nothing else overflows. -/
theorem line_of_decoded {document : Json} {map : SourceMap} (h : ofJson document = .ok map) :
    ∃ parts numbers, parts? document = some parts ∧
      (segmentTexts (Text.pieces ';' parts.mappings.toList)).mapM Vlq.decode = .ok numbers ∧
      numbers.length = map.mappings.length ∧
      ∀ line column,
        (line = 0 ∨ map.covering (line - 1) column = none → map.trace line column = some none) ∧
        ∀ m, line ≠ 0 → map.covering (line - 1) column = some m →
          ∃ k, map.mappings[k]? = some m ∧
            (m.sourceLine.toNat : Int) = lineAfter numbers (k + 1) % 2 ^ 32 ∧
            if 2 ^ 32 ∣ lineAfter numbers (k + 1) + 1 then
              map.trace line column = none
            else
              ∃ location, map.trace line column = some (some location) ∧
                location.line.toNat = m.sourceLine.toNat + 1 := by
  obtain ⟨parts, numbers, hparts, hnumbers, hcount, hlines⟩ := sourceLine_of_ofJson h
  refine ⟨parts, numbers, hparts, hnumbers, hcount, fun line column =>
    ⟨fun huncovered => ?_, fun m hline covered => ?_⟩⟩
  · by_cases hline : line = 0
    · rw [hline, trace_zero]
    · rw [trace_of_ne_zero hline, traceAt_eq_nothing_iff]
      exact huncovered.resolve_left hline
  · obtain ⟨k, hk⟩ := List.mem_iff_getElem?.mp (covering_eq_some_iff.mp covered).1.mem
    obtain ⟨source, -, hlocate⟩ := locate_of_covering covered
    have hsum := hlines k m hk
    have hbound := m.sourceLine.toNat_lt
    refine ⟨k, hk, hsum, ?_⟩
    rw [trace_of_ne_zero hline, traceAt_of_covering covered, hlocate]
    split
    · rw [Option.map_eq_none_iff, wordSum?_eq_none_iff, UInt32.toNat_one]
      omega
    · have hfits : m.sourceLine.toNat + (1 : UInt32).toNat < 2 ^ 32 := by
        rw [UInt32.toNat_one]
        omega
      have hnext := wordSum?_of_lt hfits
      exact ⟨_, congrArg _ hnext, toNat_of_wordSum? hnext⟩

/-- The document of a map of one source. -/
def oneSource (mappings : String) : Json :=
  .object [("version", .integer 3), ("sources", .array [.text "a.js"]), ("names", .array []),
    ("mappings", .text mappings)]

/-- The first segment lies one line before the first line of the source, the second two lines after
that. Tracing the first fails, the second is traced to line 2. -/
theorem line_of_decoded_of_two_segments :
    ∃ map, ofJson (oneSource "AADA,CAEA") = .ok map ∧ map.trace 1 0 = none ∧
      ∃ location, map.trace 1 1 = some (some location) ∧ location.line = 2 := by
  let map : SourceMap :=
    { rawSources := ["a.js"],
      mappings := [⟨0, 0, 4294967295, 0, some 0, none, false⟩, ⟨0, 1, 1, 0, some 0, none, false⟩] }
  have hread : ofJson (oneSource "AADA,CAEA") = .ok map := by rfl
  have first : map.covering (1 - 1) 0 = some ⟨0, 0, 4294967295, 0, some 0, none, false⟩ := by
    decide
  have second : map.covering (1 - 1) 1 = some ⟨0, 1, 1, 0, some 0, none, false⟩ := by decide
  obtain ⟨parts, numbers, -, -, -, htraced⟩ := line_of_decoded hread
  obtain ⟨j, -, hsum, hline⟩ := (htraced 1 0).2 _ (by decide) first
  obtain ⟨k, -, hsum', hline'⟩ := (htraced 1 1).2 _ (by decide) second
  have hlast : (4294967295 : Int) = lineAfter numbers (j + 1) % 2 ^ 32 := hsum
  have hnext : (1 : Int) = lineAfter numbers (k + 1) % 2 ^ 32 := hsum'
  rw [if_pos (by omega)] at hline
  rw [if_neg (by omega)] at hline'
  obtain ⟨location, htrace, hlocation⟩ := hline'
  exact ⟨map, hread, hline, location, htrace, UInt32.toNat_inj.mp hlocation⟩

/-- A segment one line before the first line of its source lies on the last line there is. Tracing
it overflows, though the map is read. -/
theorem trace_eq_none_of_last_line :
    ∃ map, ofJson (oneSource "AADA") = .ok map ∧
      map.covering 0 0 = some ⟨0, 0, 4294967295, 0, some 0, none, false⟩ ∧
      map.trace 1 0 = none :=
  ⟨{ rawSources := ["a.js"], mappings := [⟨0, 0, 4294967295, 0, some 0, none, false⟩] },
    by rfl, by decide, by decide⟩

end Read
end SourceMap
end ComponentCompiler
