import ComponentCompiler.Proofs.SourceMap.Lookup
import ComponentCompiler.SourceMap.Compose

/-!
# Segments: mappings without their numbers

The numbers of a mapping mean something only inside its map. A segment is a mapping with its
source and name spelled out, so the segments of two maps can be compared. What tracing answers
depends on the segments alone (`trace_eq_iff`).

A map that is being built gives its sources and names numbers, and its tables only ever grow at
the end. A number that was given out keeps its meaning (`Numbers.mono`), and so do the mappings
that carry it: as long as every number of a map is in its tables (`Built`), growing the tables
leaves its segments as they are (`Built.segments_eq`).
-/

namespace ComponentCompiler

/-- A mapping with its source and name spelled out; the mapping itself carries no numbers. -/
structure Segment where
  start : Mapping
  source : Option String
  name : Option String
  deriving DecidableEq, Repr

namespace Mapping

theorem orderOf_lt_of_line_lt {line line' : UInt32} (h : line < line') (column column' : UInt32) :
    orderOf line column < orderOf line' column' := by
  have hline : line.toNat < line'.toNat := h
  have hcolumn := column.toNat_lt
  unfold orderOf
  omega

theorem columnAt_of_plain {m : Mapping} (plain : m.isRange = false) (column : UInt32) :
    m.columnAt column = m.sourceColumn := by
  simp [columnAt, plain]

theorem columnAt?_of_plain {m : Mapping} (plain : m.isRange = false) (column : UInt32) :
    m.columnAt? column = some m.sourceColumn := by
  simp [columnAt?, plain]

/-- From the start of a segment on, no difference of columns is below zero. -/
theorem columnAt?_of_le {m : Mapping} {column : UInt32} (h : m.column ≤ column) :
    m.columnAt? column = some (m.columnAt column) := by
  rw [columnAt?, columnAt]
  split
  · have hle : m.column.toNat ≤ column.toNat := h
    have hrun : (column - m.column).toNat = column.toNat - m.column.toNat :=
      UInt32.toNat_sub_of_le _ _ h
    rw [wordDifference?_of_le h, Option.bind_eq_bind, Option.bind_some, wordSum?, hrun]
    refine congrArg some ?_
    split
    · rename_i hfits
      rw [Option.getD_some, Nat.min_eq_left (by omega), UInt32.ofNat_add, UInt32.ofNat_toNat,
        ← hrun, UInt32.ofNat_toNat]
    · rw [Option.getD_none, Nat.min_eq_right (by omega)]
  · rfl

/-- On a line, the order of mappings is that of their columns. -/
theorem order_le_iff_of_line {m : Mapping} {line column : UInt32} (h : m.line = line) :
    m.order ≤ orderOf line column ↔ m.column ≤ column := by
  rw [UInt32.le_iff_toNat_le, order, h, orderOf, orderOf]
  omega

end Mapping

namespace Segment

/-- The place of a segment in reading order. -/
def order (s : Segment) : Nat := s.start.order

/-- The position that a generated column inside the segment comes from. -/
def locate (s : Segment) (column : UInt32) : Option (Option Location) :=
  match s.source with
  | none => some none
  | some source => do
    let line ← wordSum? s.start.sourceLine 1
    let column ← s.start.columnAt? column
    return some ⟨source, line, column, s.name⟩

/-- Only the line of a position without ranges can be beyond all numbers. -/
theorem locate_of_plain {s : Segment} {source : String} (plain : s.start.isRange = false)
    (hsource : s.source = some source) (column : UInt32) :
    s.locate column = (wordSum? s.start.sourceLine 1).map fun line =>
      some ⟨source, line, s.start.sourceColumn, s.name⟩ := by
  simp only [locate, hsource, Mapping.columnAt?_of_plain plain, Option.bind_eq_bind,
    Option.bind_some]
  cases wordSum? s.start.sourceLine 1 <;> rfl

end Segment

namespace SourceMap

/-- A mapping of a map as a segment. -/
def segment (map : SourceMap) (m : Mapping) : Segment :=
  ⟨{ m with source := none, name := none }, map.sourceOf m, map.nameOf m⟩

/-- The segments of a map, as they are stored. -/
def segments (map : SourceMap) : List Segment := map.mappings.map map.segment

@[simp] theorem segment_order (map : SourceMap) (m : Mapping) :
    (map.segment m).order = m.order := rfl

@[simp] theorem segment_columnAt (map : SourceMap) (m : Mapping) (column : UInt32) :
    (map.segment m).start.columnAt column = m.columnAt column := rfl

theorem covering_eq_some_iff {map : SourceMap} {line column : UInt32} {m : Mapping} :
    map.covering line column = some m ↔
      Nearest Mapping.order map.mappings (Mapping.orderOf line column) m ∧
        (map.sourceOf m).isSome ∧ m.line = line := by
  simp only [covering, Option.bind_eq_bind, Option.bind_eq_some_iff, nearest_eq_some_iff,
    Option.isSome_iff_exists]
  constructor
  · rintro ⟨n, hn, source, hsource, hline⟩
    split at hline
    · cases hline
      exact ⟨hn, ⟨source, hsource⟩, ‹_›⟩
    · cases hline
  · rintro ⟨hm, ⟨source, hsource⟩, hline⟩
    exact ⟨m, hm, source, hsource, if_pos hline⟩

theorem nearest_segments_iff {map : SourceMap} {place : Nat} {s : Segment} :
    Nearest Segment.order map.segments place s ↔
      ∃ m, Nearest Mapping.order map.mappings place m ∧ map.segment m = s :=
  Nearest.map_iff (d := 0) fun m _ => by simp

/-- What a mapping says of a column is what its segment says. -/
theorem locate_segment (map : SourceMap) (m : Mapping) (column : UInt32) :
    (map.segment m).locate column = map.locate m column := rfl

/-- In the segment of a mapping that covers a position, only the line can be beyond all numbers. -/
theorem locate_of_covering {map : SourceMap} {line column : UInt32} {m : Mapping}
    (covered : map.covering line column = some m) :
    ∃ source, map.sourceOf m = some source ∧
      map.locate m column = (wordSum? m.sourceLine 1).map fun line =>
        some ⟨source, line, m.columnAt column, map.nameOf m⟩ := by
  obtain ⟨hnear, hsource, hline⟩ := covering_eq_some_iff.mp covered
  obtain ⟨source, hsource⟩ := Option.isSome_iff_exists.mp hsource
  have hle : m.column ≤ column := (Mapping.order_le_iff_of_line hline).mp hnear.le
  refine ⟨source, hsource, ?_⟩
  simp only [locate, hsource, Mapping.columnAt?_of_le hle, Option.bind_eq_bind, Option.bind_some]
  cases wordSum? m.sourceLine 1 <;> rfl

theorem locate_ne_nothing {map : SourceMap} {line column : UInt32} {m : Mapping}
    (covered : map.covering line column = some m) : map.locate m column ≠ some none := by
  obtain ⟨source, -, hlocate⟩ := locate_of_covering covered
  rw [hlocate]
  cases wordSum? m.sourceLine 1 <;> simp

theorem traceAt_of_covering {map : SourceMap} {line column : UInt32} {m : Mapping}
    (covered : map.covering line column = some m) :
    map.traceAt line column = map.locate m column := by
  rw [traceAt, covered]

theorem traceAt_eq_nothing_iff {map : SourceMap} {line column : UInt32} :
    map.traceAt line column = some none ↔ map.covering line column = none := by
  cases covered : map.covering line column with
  | none => simp [traceAt, covered]
  | some m => simp [traceAt_of_covering covered, locate_ne_nothing covered]

theorem trace_of_ne_zero {map : SourceMap} {line : UInt32} (h : line ≠ 0) (column : UInt32) :
    map.trace line column = map.traceAt (line - 1) column := by
  rw [trace, wordDifference?_one h]

theorem trace_zero (map : SourceMap) (column : UInt32) : map.trace 0 column = some none := rfl

/-- What tracing says, unless it is nothing, it says of the mapping that covers the position. -/
theorem trace_eq_iff_covering {map : SourceMap} {line column : UInt32}
    {traced : Option (Option Location)} (hne : traced ≠ some none) :
    map.trace line column = traced ↔
      line ≠ 0 ∧ ∃ m, map.covering (line - 1) column = some m ∧ map.locate m column = traced := by
  by_cases hzero : line = 0
  · simp [hzero, trace_zero, hne.symm]
  rw [trace_of_ne_zero hzero]
  cases covered : map.covering (line - 1) column with
  | none => simp [traceAt, covered, hne.symm]
  | some m => simp [traceAt_of_covering covered, hzero]

/-- Tracing answers what the nearest segment on the line of the position says. -/
theorem trace_eq_iff {map : SourceMap} {line column : UInt32} {traced : Option (Option Location)}
    (hne : traced ≠ some none) :
    map.trace line column = traced ↔
      line ≠ 0 ∧ ∃ s, Nearest Segment.order map.segments (Mapping.orderOf (line - 1) column) s ∧
        s.start.line = line - 1 ∧ s.locate column = traced := by
  simp only [trace_eq_iff_covering hne, covering_eq_some_iff, nearest_segments_iff]
  refine and_congr_right fun _ => ?_
  constructor
  · rintro ⟨m, ⟨hm, -, hline⟩, hlocate⟩
    exact ⟨map.segment m, ⟨m, hm, rfl⟩, hline, hlocate⟩
  · rintro ⟨s, ⟨m, hm, rfl⟩, hline, hlocate⟩
    rw [locate_segment] at hlocate
    refine ⟨m, ⟨hm, ?_, hline⟩, hlocate⟩
    by_contra hnone
    rw [locate, Option.not_isSome_iff_eq_none.mp hnone] at hlocate
    exact hne hlocate.symm

/-- Traces are equal if they are wherever one of them is not nothing. -/
theorem eq_of_forall_ne {α : Type} {nothing a b : α} (h : ∀ c, c ≠ nothing → (a = c ↔ b = c)) :
    a = b := by
  by_cases ha : a = nothing
  · by_contra hb
    exact hb ((h b fun hnothing => hb (ha.trans hnothing.symm)).mpr rfl)
  · exact ((h a ha).mp rfl).symm

end SourceMap

theorem getElem?_placeOf (text : String) (list : List String) :
    (placeOf text list).2[(placeOf text list).1]? = some text := by
  unfold placeOf
  cases h : list.findIdx? (· == text) with
  | none => simp
  | some id =>
      obtain ⟨hid, heq, -⟩ := List.findIdx?_eq_some_iff_getElem.mp h
      simpa [hid] using heq

theorem prefix_placeOf (text : String) (list : List String) : list <+: (placeOf text list).2 := by
  unfold placeOf
  split
  · exact List.prefix_refl list
  · exact List.prefix_append list [text]

/-- A placed text is found at its place in every table that goes on from there. -/
theorem getElem?_of_placed {text : String} {list table : List String}
    (grown : (placeOf text list).2 <+: table) : table[(placeOf text list).1]? = some text := by
  have here := getElem?_placeOf text list
  obtain ⟨more, rfl⟩ := grown
  rw [List.getElem?_append_left (List.getElem?_eq_some_iff.mp here).1, here]

/-- Each number stands for the text at the same position. -/
def Numbers (ids : List Nat) (texts table : List String) : Prop :=
  ids.map (table[·]?) = texts.map some

namespace Numbers

variable {ids : List Nat} {texts table table' : List String}

/-- What a table says about a renumbered number is what the texts say about the old one. -/
theorem bind_eq (h : Numbers ids texts table) (number : Option Nat) :
    ((number.bind (ids[·]?)).bind fun id => table[id]?) = number.bind (texts[·]?) := by
  cases number with
  | none => rfl
  | some i =>
      have hi : (ids[i]?).map (table[·]?) = (texts[i]?).map some := by
        simpa using congrArg (·[i]?) h
      change ((ids[i]?).bind fun id => table[id]?) = texts[i]?
      cases hid : ids[i]? with
      | none =>
          rw [hid, Option.map_none, eq_comm, Option.map_eq_none_iff] at hi
          rw [hi, Option.bind_none]
      | some id =>
          cases htext : texts[i]? with
          | none => simp [hid, htext] at hi
          | some text => simpa [hid, htext] using hi

theorem mem_lt (h : Numbers ids texts table) {id : Nat} (hid : id ∈ ids) : id < table.length := by
  have hmem : table[id]? ∈ ids.map (table[·]?) := List.mem_map_of_mem hid
  rw [h] at hmem
  obtain ⟨text, -, htext⟩ := List.mem_map.mp hmem
  exact (List.getElem?_eq_some_iff.mp htext.symm).1

/-- Numbers keep their meaning when the table grows. -/
theorem mono (h : Numbers ids texts table) (grown : table <+: table') :
    Numbers ids texts table' := by
  rw [Numbers, ← h]
  refine List.map_congr_left fun id hid => ?_
  obtain ⟨more, rfl⟩ := grown
  exact List.getElem?_append_left (h.mem_lt hid)

theorem nil (table : List String) : Numbers [] [] table := rfl

theorem cons {id : Nat} {text : String} (h : Numbers ids texts table)
    (here : table[id]? = some text) : Numbers (id :: ids) (text :: texts) table := by
  simpa [Numbers, here] using h

end Numbers

namespace SourceMap

/-- A map grows when its tables grow at the end. -/
structure Grows (before after : SourceMap) : Prop where
  sources : before.rawSources <+: after.rawSources
  names : before.names <+: after.names
  root : after.root = before.root

namespace Grows

variable {a b c : SourceMap}

theorem refl (a : SourceMap) : Grows a a := ⟨List.prefix_refl _, List.prefix_refl _, rfl⟩

theorem trans (h : Grows a b) (h' : Grows b c) : Grows a c :=
  ⟨h.sources.trans h'.sources, h.names.trans h'.names, h'.root.trans h.root⟩

theorem internSource (map : SourceMap) (source : String) :
    Grows map (map.internSource source).2 :=
  ⟨prefix_placeOf source map.rawSources, List.prefix_refl _, rfl⟩

theorem internName (map : SourceMap) (name : String) : Grows map (map.internName name).2 :=
  ⟨List.prefix_refl _, prefix_placeOf name map.names, rfl⟩

theorem setContent (map : SourceMap) (id : Nat) (content : Option String) :
    Grows map (map.setContent id content) :=
  ⟨List.prefix_refl _, List.prefix_refl _, rfl⟩

end Grows

/-- A map whose sources stand for themselves and whose mappings carry no number outside its
tables. -/
structure Built (map : SourceMap) : Prop where
  root : map.root = none
  source : ∀ m ∈ map.mappings, ∀ id, m.source = some id → id < map.rawSources.length
  name : ∀ m ∈ map.mappings, ∀ id, m.name = some id → id < map.names.length

theorem built_empty (file : Option String) : Built (empty file) :=
  ⟨rfl, by simp [empty], by simp [empty]⟩

theorem sources_of_root_none {map : SourceMap} (h : map.root = none) :
    map.sources = map.rawSources := by
  simp [sources, h]

theorem sourceOf_of_root_none {map : SourceMap} (h : map.root = none) (m : Mapping) :
    map.sourceOf m = m.source.bind fun id => map.rawSources[id]? := by
  rw [sourceOf, sources_of_root_none h]

/-- The mappings of a map mean the same after the map has grown. -/
theorem Built.segment_eq {before after : SourceMap} (built : Built before)
    (grown : Grows before after) {m : Mapping} (hm : m ∈ before.mappings) :
    after.segment m = before.segment m := by
  have hroot := grown.root.trans built.root
  obtain ⟨moreSources, hsources⟩ := grown.sources
  obtain ⟨moreNames, hnames⟩ := grown.names
  have hsource : after.sourceOf m = before.sourceOf m := by
    rw [sourceOf_of_root_none hroot, sourceOf_of_root_none built.root, ← hsources]
    cases h : m.source with
    | none => rfl
    | some id => exact List.getElem?_append_left (built.source m hm id h)
  have hname : after.nameOf m = before.nameOf m := by
    rw [nameOf, nameOf, ← hnames]
    cases h : m.name with
    | none => rfl
    | some id => exact List.getElem?_append_left (built.name m hm id h)
  rw [segment, segment, hsource, hname]

/-- The segments that were there stay when a map grows and gets further mappings. -/
theorem Built.segments_eq {before after : SourceMap} (built : Built before)
    (grown : Grows before after) {more : List Mapping}
    (hmappings : after.mappings = before.mappings ++ more) :
    after.segments = before.segments ++ more.map after.segment := by
  rw [segments, segments, hmappings, List.map_append]
  congr 1
  exact List.map_congr_left fun m hm => built.segment_eq grown hm

end SourceMap
end ComponentCompiler
