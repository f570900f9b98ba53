import ComponentCompiler.Proofs.SourceMap.Segments
import ComponentCompiler.SourceMap.Merge

/-!
# Tracing through maps one after the other

Merging treats the mappings of the second map one by one: a mapping either adds the segment that it
traces to (`tracedSegment`) or nothing. So the segments of the merged map are the traced ones, in
the order of the second map (`segments_merge`). A segment that covers a position in the second map
and leads somewhere is still the one that covers it when the others are traced too or left out, and
so tracing through the merged map is tracing through both (`trace_merge`).
-/

namespace ComponentCompiler.SourceMap

section AddMapping

variable {before after : SourceMap} {m : Mapping}

/-- A mapping with numbers of the grown tables adds its segment. -/
theorem Built.segments_addMapping (built : Built before) (grown : Grows before after)
    (same : after.mappings = before.mappings) (m : Mapping) :
    (after.addMapping m).segments = before.segments ++ [after.segment m] := by
  have grown' : Grows before (after.addMapping m) := ⟨grown.sources, grown.names, grown.root⟩
  have added : (after.addMapping m).mappings = before.mappings ++ [m] := by
    rw [← same]
    rfl
  rw [built.segments_eq grown' added]
  rfl

theorem Built.addMapping (built : Built before) (grown : Grows before after)
    (same : after.mappings = before.mappings)
    (source : ∀ id, m.source = some id → id < after.rawSources.length)
    (name : ∀ id, m.name = some id → id < after.names.length) :
    Built (after.addMapping m) where
  root := grown.root.trans built.root
  source n hn := by
    rcases List.mem_append.mp hn with hn | hn
    · intro id hid
      exact Nat.lt_of_lt_of_le (built.source n (same ▸ hn) id hid) grown.sources.length_le
    · obtain rfl := List.mem_singleton.mp hn
      exact source
  name n hn := by
    rcases List.mem_append.mp hn with hn | hn
    · intro id hid
      exact Nat.lt_of_lt_of_le (built.name n (same ▸ hn) id hid) grown.names.length_le
    · obtain rfl := List.mem_singleton.mp hn
      exact name

/-- A mapping with a number for its source, and perhaps one for its name, adds what the numbers
stand for. -/
theorem Built.addMapping_spec (built : Built before) (grown : Grows before after)
    (same : after.mappings = before.mappings) {id : Nat} {source : String} {name : Option String}
    (hid : m.source = some id) (hsource : after.rawSources[id]? = some source)
    (hname : m.name.map (after.names[·]?) = name.map some) :
    Built (after.addMapping m) ∧ (after.addMapping m).segments =
      before.segments ++ [⟨{ m with source := none, name := none }, some source, name⟩] := by
  have hlookup : after.nameOf m = name := by
    cases hm : m.name <;> cases name <;> simp_all [nameOf]
  constructor
  · refine built.addMapping grown same ?_ ?_
    · intro i hi
      obtain rfl : id = i := by simpa [hid] using hi
      exact (List.getElem?_eq_some_iff.mp hsource).1
    · intro i hi
      cases name with
      | none => simp [hi] at hname
      | some name =>
          have hplaced : after.names[i]? = some name := by simpa [hi] using hname
          exact (List.getElem?_eq_some_iff.mp hplaced).1
  · rw [built.segments_addMapping grown same, segment, hlookup,
      sourceOf_of_root_none (grown.root.trans built.root), hid, Option.bind_some, hsource]

end AddMapping

section Merge

variable {component transpile target : SourceMap}

/-- Where a mapping of the second map leads in the first, at the place that it has in the
second. -/
def tracedSegment (component transpile : SourceMap) (m : Mapping) : Option Segment := do
  let _ ← transpile.sourceOf m
  let traced ← component.covering m.sourceLine m.sourceColumn
  let source ← component.sourceOf traced
  return ⟨⟨m.line, m.column, traced.sourceLine, traced.columnAt m.sourceColumn, none, none, false⟩,
    some source, component.nameOf traced⟩

theorem tracedSegment_eq_some_iff {m : Mapping} {s : Segment} :
    tracedSegment component transpile m = some s ↔
      (transpile.sourceOf m).isSome ∧ ∃ traced source,
        component.covering m.sourceLine m.sourceColumn = some traced ∧
          component.sourceOf traced = some source ∧
          s = ⟨⟨m.line, m.column, traced.sourceLine, traced.columnAt m.sourceColumn, none, none,
            false⟩, some source, component.nameOf traced⟩ := by
  simp only [tracedSegment, Option.bind_eq_bind, Option.bind_eq_some_iff, Option.isSome_iff_exists,
    Option.pure_def, Option.some.injEq]
  constructor
  · rintro ⟨from_, hfrom, traced, htraced, source, hsource, rfl⟩
    exact ⟨⟨from_, hfrom⟩, traced, source, htraced, hsource, rfl⟩
  · rintro ⟨⟨from_, hfrom⟩, traced, source, htraced, hsource, rfl⟩
    exact ⟨from_, hfrom, traced, htraced, source, hsource, rfl⟩

theorem order_of_tracedSegment {m : Mapping} {s : Segment}
    (h : tracedSegment component transpile m = some s) : s.order = m.order := by
  obtain ⟨-, traced, source, -, -, rfl⟩ := tracedSegment_eq_some_iff.mp h
  rfl

variable (component transpile target)

theorem mergeSource_eq (source : String) :
    mergeSource component transpile target source = ((target.internSource source).1,
      if target.rawSources.contains source then (target.internSource source).2
      else (target.internSource source).2.setContent (target.internSource source).1
        ((component.contentOf source).orElse fun _ => transpile.contentOf source)) := by
  unfold mergeSource
  split
  rename_i id grown h
  rw [h]
  split <;> rfl

theorem grows_mergeSource (source : String) :
    Grows target (mergeSource component transpile target source).2 := by
  rw [mergeSource_eq]
  refine (Grows.internSource target source).trans ?_
  split
  · exact .refl _
  · exact .setContent _ _ _

@[simp] theorem mappings_mergeSource (source : String) :
    (mergeSource component transpile target source).2.mappings = target.mappings := by
  rw [mergeSource_eq]
  split <;> rfl

theorem placed_mergeSource (source : String) :
    (mergeSource component transpile target source).2.rawSources[
      (mergeSource component transpile target source).1]? = some source := by
  have here := getElem?_placeOf source target.rawSources
  rw [mergeSource_eq]
  split <;> exact here

variable {component transpile target}

/-- A mapping that leads nowhere is left out. -/
theorem mergeMapping_of_none {m : Mapping} (h : tracedSegment component transpile m = none) :
    mergeMapping component transpile target m = target := by
  unfold mergeMapping
  split
  · rename_i from_ traced hfrom htraced
    split
    · rfl
    · rename_i source hsource
      simp [tracedSegment, hfrom, htraced, hsource] at h
  · rfl

/-- A mapping that leads somewhere adds that segment and no other. -/
theorem mergeMapping_of_some (built : Built target) {m : Mapping} {s : Segment}
    (h : tracedSegment component transpile m = some s) :
    Built (mergeMapping component transpile target m) ∧
      (mergeMapping component transpile target m).segments = target.segments ++ [s] := by
  obtain ⟨hfrom, traced, source, htraced, hsource, rfl⟩ := tracedSegment_eq_some_iff.mp h
  obtain ⟨from_, hfrom⟩ := Option.isSome_iff_exists.mp hfrom
  have grown := grows_mergeSource component transpile target source
  have same := mappings_mergeSource component transpile target source
  have placed := placed_mergeSource component transpile target source
  unfold mergeMapping
  simp only [hfrom, htraced, hsource]
  cases hname : component.nameOf traced with
  | none => exact built.addMapping_spec grown same rfl placed rfl
  | some name =>
      have grown' := Grows.internName (mergeSource component transpile target source).2 name
      refine built.addMapping_spec (grown.trans grown') same rfl placed ?_
      exact congrArg some (getElem?_placeOf name _)

theorem segments_foldl_mergeMapping (ms : List Mapping) (built : Built target) :
    (ms.foldl (mergeMapping component transpile) target).segments =
      target.segments ++ ms.filterMap (tracedSegment component transpile) := by
  induction ms generalizing target with
  | nil => simp
  | cons m ms ih =>
      rw [List.foldl_cons]
      cases h : tracedSegment component transpile m with
      | none => rw [mergeMapping_of_none h, ih built, List.filterMap_cons_none h]
      | some s =>
          obtain ⟨built', hsegments⟩ := mergeMapping_of_some built h
          rw [ih built', hsegments, List.filterMap_cons_some h, List.append_assoc,
            List.singleton_append]

/-- The segments of a merged map are those that the second map's mappings trace to. -/
theorem segments_merge (component transpile : SourceMap) :
    (merge component transpile).segments =
      transpile.mappings.filterMap (tracedSegment component transpile) := by
  rw [merge, segments_foldl_mergeMapping _ (built_empty _)]
  rfl

/-- A position that the second map traces to a place, and the first map that place to another, is
traced to the other by the merged map: same source, line, column and name. -/
theorem trace_merge (component transpile : SourceMap)
    (plain : ∀ m ∈ transpile.mappings, m.isRange = false) (line column : UInt32)
    {middle origin : Location} (second : transpile.trace line column = some (some middle))
    (first : component.trace middle.line middle.column = some (some origin)) :
    (merge component transpile).trace line column = some (some origin) := by
  obtain ⟨hzero, m, hm, hmiddle⟩ := (trace_eq_iff_covering (by simp)).mp second
  obtain ⟨from_, hfrom, hlocate⟩ := locate_of_covering hm
  obtain ⟨hm, -, hline⟩ := covering_eq_some_iff.mp hm
  obtain ⟨-, traced, htraced, horigin⟩ := (trace_eq_iff_covering (by simp)).mp first
  obtain ⟨middleLine, hnext, hsame⟩ := Option.map_eq_some_iff.mp (hlocate.symm.trans hmiddle)
  obtain rfl := Option.some.inj hsame
  have hback : middleLine - 1 = m.sourceLine := by
    rw [← (wordSum?_eq_some_iff.mp hnext).2, UInt32.add_sub_cancel]
  have hcolumn := Mapping.columnAt_of_plain (plain m hm.mem) column
  simp only [hback, hcolumn] at htraced horigin
  obtain ⟨source, hsource, hlocate'⟩ := locate_of_covering htraced
  let s : Segment := ⟨⟨m.line, m.column, traced.sourceLine, traced.columnAt m.sourceColumn, none,
    none, false⟩, some source, component.nameOf traced⟩
  have hkept : tracedSegment component transpile m = some s :=
    tracedSegment_eq_some_iff.mpr ⟨by simp [hfrom], traced, source, htraced, hsource, rfl⟩
  have hmoved : ∀ n t, tracedSegment component transpile n = some t → n ∈ transpile.mappings →
      t.order = n.order + 0 :=
    fun _ _ h _ => by rw [Nat.add_zero, order_of_tracedSegment h]
  have hnear := hm.filterMap hkept hmoved
  rw [← segments_merge, Nat.add_zero] at hnear
  have hlocated : s.locate column = some (some origin) := by
    rw [Segment.locate_of_plain rfl rfl, ← horigin, hlocate']
  exact (trace_eq_iff (by simp)).mpr ⟨hzero, s, hnear, hline, hlocated⟩

/-- Two segments of a component that the transpiler has swapped, and one that leads nowhere. -/
theorem trace_merge_swapped :
    let component : SourceMap :=
      { rawSources := ["a.vue"], names := ["x"],
        mappings := [⟨0, 0, 4, 2, some 0, some 0, false⟩, ⟨1, 0, 5, 2, some 0, none, true⟩] }
    let transpile : SourceMap :=
      { rawSources := ["a.ts"],
        mappings := [⟨0, 0, 1, 3, some 0, none, false⟩, ⟨1, 0, 7, 0, some 0, none, false⟩,
          ⟨1, 4, 0, 6, some 0, none, false⟩] }
    (merge component transpile).trace 1 8 = some (some ⟨"a.vue", 6, 5, none⟩) ∧
      (merge component transpile).trace 2 9 = some (some ⟨"a.vue", 5, 2, some "x"⟩) := by
  intro component transpile
  have traced := trace_merge component transpile (by decide)
  constructor
  · have second : transpile.trace 1 8 = some (some ⟨"a.ts", 2, 3, none⟩) := by decide
    exact traced 1 8 second (by decide +kernel)
  · have second : transpile.trace 2 9 = some (some ⟨"a.ts", 1, 6, none⟩) := by decide
    exact traced 2 9 second (by decide)

end Merge

end ComponentCompiler.SourceMap
