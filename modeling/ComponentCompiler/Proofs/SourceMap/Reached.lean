import ComponentCompiler.Proofs.SourceMap.Contents
import ComponentCompiler.Proofs.SourceMap.Dropping

/-!
# The sources of maps one after the other

Merging lists a source when the first mapping leads to it, and embeds a text for it then and never
again (`Carrying`). Whatever the mappings are and however often they lead to a source, in the end it
is listed once, with the text that the component's map embeds for its name or, without one there,
the text that the other map embeds for the same name (`sources_of_merge`). The mappings that are
left stand at the places that they had, in the same order (`positions_merge`).
-/

namespace ComponentCompiler

/-- Where a mapping starts in the generated text. -/
def Mapping.position (m : Mapping) : UInt32 × UInt32 := (m.line, m.column)

namespace SourceMap

variable {component transpile target : SourceMap} {m : Mapping} {source : String}

/-- A mapping of the second map has a source, and what covers its origin leads to a source of the
first. -/
def LeadsTo (component transpile : SourceMap) (m : Mapping) (source : String) : Prop :=
  (transpile.sourceOf m).isSome ∧ ∃ traced,
    component.covering m.sourceLine m.sourceColumn = some traced ∧
      component.sourceOf traced = some source

section LeadsTo

theorem traceable_iff_exists_leadsTo :
    Traceable component transpile m ↔ ∃ source, LeadsTo component transpile m source := by
  rw [Traceable, origin, ne_eq, traceAt_eq_nothing_iff]
  simp only [LeadsTo, exists_and_left]
  refine and_congr_right fun _ => ⟨fun hcovered => ?_, ?_⟩
  · obtain ⟨traced, htraced⟩ := Option.ne_none_iff_exists'.mp hcovered
    obtain ⟨-, hsource, -⟩ := covering_eq_some_iff.mp htraced
    obtain ⟨source, hsource⟩ := Option.isSome_iff_exists.mp hsource
    exact ⟨source, traced, htraced, hsource⟩
  · rintro ⟨source, traced, htraced, -⟩
    rw [htraced]
    exact Option.some_ne_none _

/-- A mapping leads to one source at most. -/
theorem LeadsTo.unique {other : String} (h : LeadsTo component transpile m source)
    (h' : LeadsTo component transpile m other) : other = source := by
  obtain ⟨-, traced, htraced, hsource⟩ := h
  obtain ⟨-, found, hfound, hother⟩ := h'
  obtain rfl := Option.some.inj (htraced.symm.trans hfound)
  exact Option.some.inj (hother.symm.trans hsource)

theorem LeadsTo.mem_sources (h : LeadsTo component transpile m source) :
    source ∈ component.sources := by
  obtain ⟨-, traced, -, hsource⟩ := h
  obtain ⟨id, -, hid⟩ := Option.bind_eq_some_iff.mp hsource
  exact List.mem_of_getElem? hid

end LeadsTo

section Step

/-- Besides a name and a mapping, a mapping that leads to a source adds that source. -/
theorem mergeMapping_of_leadsTo (h : LeadsTo component transpile m source) (target : SourceMap) :
    ∃ names mappings, mergeMapping component transpile target m =
      { (mergeSource component transpile target source).2 with names, mappings } := by
  obtain ⟨hfrom, traced, htraced, hsource⟩ := h
  obtain ⟨from_, hfrom⟩ := Option.isSome_iff_exists.mp hfrom
  unfold mergeMapping
  simp only [hfrom, htraced, hsource]
  cases component.nameOf traced <;> exact ⟨_, _, rfl⟩

/-- A mapping that leads to no source adds nothing. -/
theorem mergeMapping_of_not_leadsTo (h : ∀ source, ¬ LeadsTo component transpile m source)
    (target : SourceMap) : mergeMapping component transpile target m = target := by
  refine mergeMapping_of_none (Option.not_isSome_iff_eq_none.mp fun hsome => ?_)
  obtain ⟨source, hsource⟩ := traceable_iff_exists_leadsTo.mp (isSome_tracedSegment.mp hsome)
  exact h source hsource

theorem rawSources_mergeSource (component transpile target : SourceMap) (source : String) :
    (mergeSource component transpile target source).2.rawSources =
      if source ∈ target.rawSources then target.rawSources else target.rawSources ++ [source] := by
  rw [mergeSource_eq, ← rawSources_internSource]
  split <;> rfl

theorem mem_rawSources_mergeMapping {other : String} :
    other ∈ (mergeMapping component transpile target m).rawSources ↔
      other ∈ target.rawSources ∨ LeadsTo component transpile m other := by
  by_cases hleads : ∃ source, LeadsTo component transpile m source
  · obtain ⟨source, hleads⟩ := hleads
    have hother : LeadsTo component transpile m other ↔ other = source :=
      ⟨hleads.unique, fun h => h ▸ hleads⟩
    obtain ⟨names, mappings, hmerge⟩ := mergeMapping_of_leadsTo hleads target
    have hraw : (mergeMapping component transpile target m).rawSources =
        (mergeSource component transpile target source).2.rawSources := by rw [hmerge]
    rw [hraw, rawSources_mergeSource, hother]
    split
    next hmem => exact ⟨.inl, fun h => h.elim id fun heq => heq ▸ hmem⟩
    next => rw [List.mem_append, List.mem_singleton]
  · have hnone := not_exists.mp hleads
    rw [mergeMapping_of_not_leadsTo hnone, or_iff_left (hnone other)]

end Step

section Carrying

/-- The text that two maps embed for a source. The first map's counts. -/
def eitherText (component transpile : SourceMap) (source : String) : Option String :=
  (component.contentOf source).orElse fun _ => transpile.contentOf source

/-- A map that lists its sources once, each with the text that one of two maps embeds for it. -/
structure Carrying (component transpile target : SourceMap) : Prop where
  fitting : Fitting target
  distinct : target.rawSources.Nodup
  texts : ∀ source ∈ target.rawSources,
    target.contentOf source = eitherText component transpile source

theorem carrying_empty (component transpile : SourceMap) (file : Option String) :
    Carrying component transpile (empty file) :=
  ⟨fitting_empty file, List.nodup_nil, fun _ h => absurd h List.not_mem_nil⟩

/-- A source that is added for the first time comes with its text, and nothing else changes. -/
theorem contentOf_mergeSource (fit : Fitting target) (source other : String) :
    (mergeSource component transpile target source).2.contentOf other =
      if source ∉ target.rawSources ∧ other = source then eitherText component transpile source
      else target.contentOf other := by
  rw [mergeSource_eq]
  by_cases hmem : source ∈ target.rawSources
  · rw [if_pos (List.contains_iff_mem.mpr hmem), contentOf_internSource fit,
      if_neg fun hnew => hnew.1 hmem]
  · have hplaced : (target.internSource source).2.rawSources.findIdx? (· == source) =
        some (target.internSource source).1 := findIdx?_placeOf source target.rawSources
    rw [if_neg (mt List.contains_iff_mem.mp hmem),
      contentOf_setContent (fit.internSource source) hplaced, contentOf_internSource fit]
    simp only [hmem, not_false_eq_true, true_and]
    rfl

theorem Fitting.mergeSource (fit : Fitting target) (component transpile : SourceMap)
    (source : String) : Fitting (mergeSource component transpile target source).2 := by
  rw [mergeSource_eq]
  split
  · exact fit.internSource source
  · exact (fit.internSource source).setContent _ _

theorem Carrying.mergeSource (h : Carrying component transpile target) (source : String) :
    Carrying component transpile (mergeSource component transpile target source).2 := by
  have hraw := rawSources_mergeSource component transpile target source
  refine ⟨h.fitting.mergeSource component transpile source, ?_, fun other hother => ?_⟩
  · rw [hraw]
    split
    next => exact h.distinct
    next hmem =>
      have hne : ∀ other ∈ target.rawSources, other ≠ source :=
        fun other hother heq => hmem (heq ▸ hother)
      simpa [List.nodup_append, h.distinct] using hne
  · rw [contentOf_mergeSource h.fitting]
    split
    next hnew => rw [hnew.2]
    next hold =>
      rw [hraw] at hother
      split at hother
      next => exact h.texts other hother
      next hmem =>
        have hne : other ≠ source := fun heq => hold ⟨hmem, heq⟩
        exact h.texts other (by simpa [hne] using hother)

theorem Carrying.mergeMapping (h : Carrying component transpile target) (m : Mapping) :
    Carrying component transpile (mergeMapping component transpile target m) := by
  by_cases hleads : ∃ source, LeadsTo component transpile m source
  · obtain ⟨source, hleads⟩ := hleads
    have hsource := h.mergeSource source
    obtain ⟨names, mappings, hmerge⟩ := mergeMapping_of_leadsTo hleads target
    rw [hmerge]
    exact ⟨⟨hsource.fitting.root, hsource.fitting.contents⟩, hsource.distinct, hsource.texts⟩
  · rwa [mergeMapping_of_not_leadsTo (not_exists.mp hleads)]

/-- Whatever mappings are merged, in whatever order: the sources are those that they lead to, each
once and with its text. -/
theorem Carrying.foldl_mergeMapping (h : Carrying component transpile target)
    (ms : List Mapping) :
    Carrying component transpile (ms.foldl (SourceMap.mergeMapping component transpile) target) ∧
      ∀ source, source ∈ (ms.foldl (SourceMap.mergeMapping component transpile)
          target).rawSources ↔
        source ∈ target.rawSources ∨ ∃ m ∈ ms, LeadsTo component transpile m source := by
  induction ms generalizing target with
  | nil => exact ⟨h, by simp⟩
  | cons m ms ih =>
      obtain ⟨hcarrying, hmem⟩ := ih (h.mergeMapping m)
      refine ⟨hcarrying, fun source => ?_⟩
      rw [List.foldl_cons, hmem, mem_rawSources_mergeMapping, List.exists_mem_cons_iff, or_assoc]

end Carrying

section Merge

theorem carrying_merge (component transpile : SourceMap) :
    Carrying component transpile (merge component transpile) :=
  ((carrying_empty component transpile _).foldl_mergeMapping transpile.mappings).1

/-- The sources of a merged map are those that the mappings of the second map lead to. -/
theorem mem_sources_merge :
    source ∈ (merge component transpile).sources ↔
      ∃ m ∈ transpile.mappings, LeadsTo component transpile m source := by
  rw [sources_of_root_none (carrying_merge component transpile).fitting.root]
  refine (((carrying_empty component transpile _).foldl_mergeMapping
    transpile.mappings).2 source).trans ?_
  exact or_iff_right List.not_mem_nil

theorem contentOf_of_not_mem (h : source ∉ target.sources) : target.contentOf source = none := by
  have hnone : target.sources.findIdx? (· == source) = none := by
    rw [List.findIdx?_eq_none_iff]
    intro other hother
    simpa using fun heq : other = source => h (heq ▸ hother)
  rw [contentOf, hnone, Option.bind_none]

/-- The mappings of a merged map start where those that can be traced do, in the same order. -/
theorem positions_merge (component transpile : SourceMap) :
    (merge component transpile).mappings.map Mapping.position =
      (traceables component transpile).map Mapping.position := by
  have hsegments := congrArg (List.map fun s => Mapping.position s.start)
    (segments_merge_traceables component transpile)
  rw [segments, List.map_map] at hsegments
  refine hsegments.trans ?_
  rw [List.map_filterMap, ← List.filterMap_eq_map]
  refine List.filterMap_congr fun m hm => ?_
  obtain ⟨s, hs⟩ := Option.isSome_iff_exists.mp
    (isSome_tracedSegment.mpr (mem_traceables.mp hm).2)
  obtain ⟨-, traced, source, -, -, rfl⟩ := tracedSegment_eq_some_iff.mp hs
  rw [hs]
  rfl

/-- A merged map lists the sources of the component that a mapping of the transpiled text leads to,
and no others, each once. A source has the text that the component embeds for it, and if there is
none the one that the transpiled map embeds. The mappings start where those of the transpiled text
do that lead somewhere, in their order. -/
theorem sources_of_merge (component transpile : SourceMap) :
    let merged := merge component transpile
    (∀ source, source ∈ merged.sources ↔
      ∃ m ∈ transpile.mappings, LeadsTo component transpile m source) ∧
    merged.sources ⊆ component.sources ∧ merged.sources.Nodup ∧
    (∀ source, merged.contentOf source =
      if source ∈ merged.sources then
        (component.contentOf source).orElse fun _ => transpile.contentOf source
      else none) ∧
    merged.mappings.map Mapping.position =
      (traceables component transpile).map Mapping.position ∧
    (merged.mappings.map Mapping.position).Sublist
      (transpile.mappings.map Mapping.position) := by
  intro merged
  have hcarrying := carrying_merge component transpile
  have hraw : merged.sources = merged.rawSources := sources_of_root_none hcarrying.fitting.root
  refine ⟨fun source => mem_sources_merge, fun source hsource => ?_, hraw ▸ hcarrying.distinct,
    fun source => ?_, positions_merge component transpile, ?_⟩
  · obtain ⟨m, -, hleads⟩ := mem_sources_merge.mp hsource
    exact hleads.mem_sources
  · split
    next hmem => exact hcarrying.texts source (hraw ▸ hmem)
    next habsent => exact contentOf_of_not_mem habsent
  · rw [positions_merge]
    exact List.filter_sublist.map Mapping.position

/-- The component lists a source twice, first without a text. The transpiled text leads to the
second of them, twice, and to a third source, in another order, and elsewhere to nothing. -/
theorem sources_of_merge_of_repeated :
    let component : SourceMap :=
      { rawSources := ["a.vue", "b.js", "a.vue", "c.js"],
        contents := [none, some "let b", some "<a>", some "let c"],
        mappings := [⟨0, 0, 4, 0, some 2, none, true⟩, ⟨1, 0, 5, 0, some 1, none, false⟩] }
    let transpile : SourceMap :=
      { rawSources := ["b.js", "a.vue", "b.js"],
        contents := [some "var b", some "var a"],
        mappings := [⟨0, 0, 1, 2, some 0, none, false⟩, ⟨0, 8, 0, 3, some 2, none, false⟩,
          ⟨1, 0, 2, 0, some 0, none, false⟩, ⟨1, 4, 0, 7, some 1, none, true⟩,
          ⟨2, 0, 0, 0, none, none, false⟩] }
    let merged := merge component transpile
    "c.js" ∉ merged.sources ∧ merged.sources.Nodup ∧
      merged.contentOf "a.vue" = some "var a" ∧ merged.contentOf "b.js" = some "let b" ∧
      merged.mappings.map Mapping.position = [(0, 0), (0, 8), (1, 4)] := by
  intro component transpile merged
  obtain ⟨-, -, hdistinct, htexts, hpositions, -⟩ := sources_of_merge component transpile
  have hlisted : merged.sources = ["b.js", "a.vue"] := by decide +kernel
  refine ⟨hlisted ▸ by decide, hdistinct, ?_, ?_, hpositions.trans (by decide +kernel)⟩
  · rw [htexts, if_pos (hlisted ▸ by decide)]
    decide
  · rw [htexts, if_pos (hlisted ▸ by decide)]
    decide

end Merge

end SourceMap
end ComponentCompiler
