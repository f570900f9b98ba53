import ComponentCompiler.Proofs.SourceMap.Merge

/-!
# Segments that lead nowhere

Merging drops the mappings of the second map that lead to no place in the sources of the first, and
with a mapping goes the end that it put to the segment before it. So the merged map traces a
position by the nearest mapping that is left (`nearest_segments_merge`): a position traces to
nothing exactly if every mapping up to it on its line was dropped, and otherwise to where the last
of the others leads, across the dropped ones (`trace_merge_across_dropped`).
-/

namespace ComponentCompiler

namespace Nearest

variable {α : Type} {order : α → Nat} {xs : List α} {place : Nat} {x y : α}

/-- Nothing that is not beyond the place is beyond what is found. -/
theorem le_of_mem (h : Nearest order xs place x) (hy : y ∈ xs) (hle : order y ≤ place) :
    order y ≤ order x := by
  cases h with
  | hit _ _ _ here => omega
  | before front back split miss below earlier later =>
      have hlt : order y < place := Nat.lt_of_le_of_ne hle (miss y hy)
      rw [split, List.mem_append, List.mem_cons] at hy
      obtain hy | rfl | hy := hy
      · exact earlier y hy hlt
      · exact Nat.le_refl _
      · exact Nat.le_of_lt (later y hy hlt)

end Nearest

namespace SourceMap

variable {component transpile : SourceMap} {line column : UInt32} {m n : Mapping}

/-- Where a map traces the origin of a mapping of another map. -/
def origin (component : SourceMap) (m : Mapping) : Option (Option Location) :=
  component.traceAt m.sourceLine m.sourceColumn

theorem origin_eq_trace (component : SourceMap) (h : m.sourceLine + 1 ≠ 0) :
    component.origin m = component.trace (m.sourceLine + 1) m.sourceColumn := by
  rw [trace_of_ne_zero h, UInt32.add_sub_cancel, origin]

/-- A mapping of the second map has a source, and its origin traces to a place by the first. -/
def Traceable (component transpile : SourceMap) (m : Mapping) : Prop :=
  (transpile.sourceOf m).isSome ∧ component.origin m ≠ some none

instance : DecidablePred (Traceable component transpile) := fun m =>
  inferInstanceAs (Decidable ((transpile.sourceOf m).isSome ∧ component.origin m ≠ some none))

/-- The mappings of the second map that are not dropped. -/
def traceables (component transpile : SourceMap) : List Mapping :=
  transpile.mappings.filter (Traceable component transpile ·)

theorem mem_traceables :
    m ∈ traceables component transpile ↔
      m ∈ transpile.mappings ∧ Traceable component transpile m := by
  simp [traceables]

/-- A mapping that can be traced adds a segment, which leads where its origin traces. -/
theorem locate_of_tracedSegment {s : Segment} (h : tracedSegment component transpile m = some s)
    (column : UInt32) : s.locate column = component.origin m := by
  obtain ⟨-, traced, source, htraced, hsource, rfl⟩ := tracedSegment_eq_some_iff.mp h
  obtain ⟨source', hsource', hlocate⟩ := locate_of_covering htraced
  obtain rfl := Option.some.inj (hsource.symm.trans hsource')
  rw [Segment.locate_of_plain rfl rfl, origin, traceAt_of_covering htraced, hlocate]

theorem isSome_tracedSegment :
    (tracedSegment component transpile m).isSome ↔ Traceable component transpile m := by
  rw [Traceable, origin, ne_eq, traceAt_eq_nothing_iff, tracedSegment]
  cases transpile.sourceOf m with
  | none => simp
  | some _ =>
      cases covered : component.covering m.sourceLine m.sourceColumn with
      | none => simp
      | some traced =>
          obtain ⟨-, hsource, -⟩ := covering_eq_some_iff.mp covered
          obtain ⟨source, hsource⟩ := Option.isSome_iff_exists.mp hsource
          simp [hsource]

theorem segments_merge_traceables (component transpile : SourceMap) :
    (merge component transpile).segments =
      (traceables component transpile).filterMap (tracedSegment component transpile) := by
  rw [segments_merge, traceables, List.filterMap_filter]
  refine List.filterMap_congr fun m _ => ?_
  split
  · rfl
  · rename_i huntraceable
    rwa [decide_eq_true_eq, ← isSome_tracedSegment, Bool.not_eq_true, Option.isSome_eq_false_iff,
      Option.isNone_iff_eq_none] at huntraceable

/-- What a place finds in a merged map is what it finds among the mappings that are left. -/
theorem nearest_segments_merge {place : Nat} {s : Segment} :
    Nearest Segment.order (merge component transpile).segments place s ↔
      ∃ n, nearest (traceables component transpile) place = some n ∧
        tracedSegment component transpile n = some s := by
  have kept : ∀ n t, nearest (traceables component transpile) place = some n →
      tracedSegment component transpile n = some t →
      Nearest Segment.order (merge component transpile).segments place t := by
    intro n t hn ht
    have hmoved : ∀ a b, tracedSegment component transpile a = some b →
        a ∈ traceables component transpile → b.order = a.order + 0 :=
      fun _ _ h _ => by rw [Nat.add_zero, order_of_tracedSegment h]
    have hnear := (nearest_eq_some_iff.mp hn).filterMap ht hmoved
    rwa [← segments_merge_traceables, Nat.add_zero] at hnear
  constructor
  · intro h
    have hmem := h.mem
    rw [segments_merge_traceables, List.mem_filterMap] at hmem
    obtain ⟨m, hm, hs⟩ := hmem
    have hle : m.order ≤ place := order_of_tracedSegment hs ▸ h.le
    cases hn : nearest (traceables component transpile) place with
    | none =>
        have := nearest_eq_none_iff.mp hn m hm
        omega
    | some n =>
        have hn' := (mem_traceables.mp (nearest_eq_some_iff.mp hn).mem).2
        obtain ⟨t, ht⟩ := Option.isSome_iff_exists.mp (isSome_tracedSegment.mpr hn')
        -- The lookup has one answer, so the segment of `n` is the one that was found.
        obtain ⟨a, ha, rfl⟩ := nearest_segments_iff.mp h
        obtain ⟨b, hb, rfl⟩ := nearest_segments_iff.mp (kept n t hn ht)
        have hab : some a = some b :=
          (nearest_eq_some_iff.mpr ha).symm.trans (nearest_eq_some_iff.mpr hb)
        rw [Option.some.inj hab]
        exact ⟨n, rfl, ht⟩
  · rintro ⟨n, hn, hs⟩
    exact kept n s hn hs

/-- Tracing by a merged map goes by the nearest mapping that is left, if it is on the line. -/
theorem trace_merge_eq_iff {traced : Option (Option Location)} (hne : traced ≠ some none) :
    (merge component transpile).trace line column = traced ↔
      line ≠ 0 ∧ ∃ n,
        nearest (traceables component transpile) (Mapping.orderOf (line - 1) column) = some n ∧
          n.line = line - 1 ∧ component.origin n = traced := by
  have line_of : ∀ {n s}, tracedSegment component transpile n = some s → s.start.line = n.line := by
    intro n s h
    obtain ⟨-, traced, source, -, -, rfl⟩ := tracedSegment_eq_some_iff.mp h
    rfl
  rw [trace_eq_iff hne]
  refine and_congr_right fun _ => ?_
  constructor
  · rintro ⟨s, hs, hline, hlocate⟩
    obtain ⟨n, hn, htraced⟩ := nearest_segments_merge.mp hs
    exact ⟨n, hn, line_of htraced ▸ hline, locate_of_tracedSegment htraced column ▸ hlocate⟩
  · rintro ⟨n, hn, hline, horigin⟩
    have hn' := (mem_traceables.mp (nearest_eq_some_iff.mp hn).mem).2
    obtain ⟨s, hs⟩ := Option.isSome_iff_exists.mp (isSome_tracedSegment.mpr hn')
    refine ⟨s, nearest_segments_merge.mpr ⟨n, hn, hs⟩, (line_of hs).trans hline, ?_⟩
    rw [locate_of_tracedSegment hs, horigin]

/-- If a mapping lies on a line up to a column, there is a nearest one to that place, on the
line. -/
theorem exists_nearest_of_line {xs : List Mapping} (hm : m ∈ xs) (hline : m.line = line)
    (hcolumn : m.column ≤ column) :
    ∃ n, nearest xs (Mapping.orderOf line column) = some n ∧ n.line = line := by
  have hle := (Mapping.order_le_iff_of_line hline).mpr hcolumn
  cases hn : nearest xs (Mapping.orderOf line column) with
  | none =>
      have hbeyond := nearest_eq_none_iff.mp hn m hm
      omega
  | some n =>
      have hnear := nearest_eq_some_iff.mp hn
      have hmn : m.order ≤ n.order := hnear.le_of_mem hm hle
      have hnp := hnear.le
      refine ⟨n, rfl, ?_⟩
      by_contra hne
      -- `n` is neither before `m`, which is on the line, nor beyond the place.
      rcases Nat.lt_or_gt_of_ne fun h => hne (UInt32.toNat_inj.mp h) with hlt | hgt
      · have hnm := Mapping.orderOf_lt_of_line_lt (UInt32.lt_iff_toNat_lt.mpr (hline ▸ hlt))
          n.column m.column
        simp only [Mapping.order] at hmn
        omega
      · have hpn := Mapping.orderOf_lt_of_line_lt (UInt32.lt_iff_toNat_lt.mpr hgt) column n.column
        simp only [Mapping.order] at hnp
        omega

/-- If a mapping on the line up to a column can be traced, the position traces to the origin of the
last one that can. -/
theorem trace_merge_of_traceable (hline : line ≠ 0) (hm : m ∈ transpile.mappings)
    (hmline : m.line = line - 1) (hcolumn : m.column ≤ column)
    (htraceable : Traceable component transpile m) :
    ∃ n, nearest (traceables component transpile) (Mapping.orderOf (line - 1) column) = some n ∧
      n.line = line - 1 ∧ component.origin n ≠ some none ∧
      (merge component transpile).trace line column = component.origin n := by
  obtain ⟨n, hn, hnline⟩ :=
    exists_nearest_of_line (mem_traceables.mpr ⟨hm, htraceable⟩) hmline hcolumn
  have hlast := (mem_traceables.mp (nearest_eq_some_iff.mp hn).mem).2
  exact ⟨n, hn, hnline, hlast.2, (trace_merge_eq_iff hlast.2).mpr ⟨hline, n, hn, hnline, rfl⟩⟩

/-- A position traces to nothing by a merged map exactly if no mapping of the second map up to it on
its line can be traced by the first. Otherwise it traces to the origin of the last one that can,
whatever segments were dropped in between. -/
theorem trace_merge_across_dropped (component transpile : SourceMap) {line : UInt32}
    (hline : line ≠ 0) (column : UInt32) :
    ((merge component transpile).trace line column = some none ↔
      ∀ m ∈ transpile.mappings, m.line = line - 1 → m.column ≤ column →
        ¬ Traceable component transpile m) ∧
    ∀ m ∈ transpile.mappings, m.line = line - 1 → m.column ≤ column →
      Traceable component transpile m →
        ∃ n, nearest (traceables component transpile) (Mapping.orderOf (line - 1) column) = some n ∧
          n.line = line - 1 ∧ component.origin n ≠ some none ∧
          (merge component transpile).trace line column = component.origin n := by
  refine ⟨⟨?_, ?_⟩, fun m => trace_merge_of_traceable hline⟩
  · intro hnone m hm hmline hcolumn htraceable
    obtain ⟨n, -, -, horigin, htrace⟩ :=
      trace_merge_of_traceable hline hm hmline hcolumn htraceable
    exact horigin (htrace.symm.trans hnone)
  · intro huntraceable
    by_contra htrace
    obtain ⟨-, n, hn, hnline, -⟩ := (trace_merge_eq_iff htrace).mp rfl
    have hnear := nearest_eq_some_iff.mp hn
    obtain ⟨hmem, htraceable⟩ := mem_traceables.mp hnear.mem
    exact huntraceable n hmem hnline ((Mapping.order_le_iff_of_line hnline).mp hnear.le)
      htraceable

/-- On a line that the transpiler starts with code of its own, the positions up to the first mapping
that can be traced trace to nothing, and those after the next code of its own to that mapping. -/
theorem trace_merge_across_dropped_of_helper :
    let component : SourceMap :=
      { rawSources := ["App.vue"], names := ["x"],
        mappings := [⟨1, 2, 4, 6, some 0, some 0, true⟩] }
    let transpile : SourceMap :=
      { rawSources := ["App.ts"],
        mappings := [⟨0, 0, 0, 0, none, none, false⟩, ⟨0, 4, 1, 5, some 0, none, false⟩,
          ⟨0, 10, 1, 5, none, none, false⟩, ⟨0, 14, 0, 3, some 0, none, false⟩] }
    (merge component transpile).trace 1 3 = some none ∧
      (merge component transpile).trace 1 20 = some (some ⟨"App.vue", 5, 9, some "x"⟩) := by
  intro component transpile
  have across := trace_merge_across_dropped component transpile (show (1 : UInt32) ≠ 0 by decide)
  have hfirst : ⟨0, 4, 1, 5, some 0, none, false⟩ ∈ transpile.mappings := by decide
  obtain ⟨n, hn, -, -, htrace⟩ := (across 20).2 _ hfirst rfl (by decide) (by decide +kernel)
  have hlast : nearest (traceables component transpile) (Mapping.orderOf (1 - 1) 20) =
      some ⟨0, 4, 1, 5, some 0, none, false⟩ := by decide +kernel
  obtain rfl := Option.some.inj (hlast.symm.trans hn)
  exact ⟨(across 3).1.mpr (by decide +kernel), htrace.trans (by decide +kernel)⟩

/-- A position in code of the transpiler's own may trace to the component. -/
theorem trace_merge_ne_none_of_unmapped :
    ¬ ∀ (component transpile : SourceMap) (line column : UInt32) (m : Mapping), line ≠ 0 →
      nearest transpile.mappings (Mapping.orderOf (line - 1) column) = some m →
        m.line = line - 1 → ¬ Traceable component transpile m →
          (merge component transpile).trace line column = some none := by
  intro h
  let component : SourceMap :=
    { rawSources := ["App.vue"], mappings := [⟨0, 0, 2, 0, some 0, none, false⟩] }
  let transpile : SourceMap :=
    { rawSources := ["app.ts"],
      mappings := [⟨0, 0, 0, 0, some 0, none, false⟩, ⟨0, 10, 0, 0, none, none, false⟩] }
  let helper : Mapping := ⟨0, 10, 0, 0, none, none, false⟩
  have hnearest : nearest transpile.mappings (Mapping.orderOf (1 - 1) 12) = some helper := by
    decide +kernel
  have huntraceable : ¬ Traceable component transpile helper := fun h => by cases h.1
  have hnone := h component transpile 1 12 helper (by decide) hnearest rfl huntraceable
  revert hnone
  decide +kernel

end SourceMap
end ComponentCompiler
