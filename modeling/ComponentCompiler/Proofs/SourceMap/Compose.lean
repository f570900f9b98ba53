import ComponentCompiler.Proofs.SourceMap.Segments

/-!
# Tracing through maps one below the other

Appending a map adds its segments below the ones that are there, moved down (`segments_append`).
A lookup in the upper part never reaches the lower segments, since they all start beyond it, and a
lookup in the lower part that ends at an upper segment has left its line, where tracing finds
nothing anyway. So each half of a composed map answers for itself (`trace_compose`).
-/

namespace ComponentCompiler

namespace Segment

/-- A segment of a map that was appended some lines further down. -/
def down (offset : UInt32) (s : Segment) : Segment :=
  { s with start := { s.start with line := s.start.line + offset, isRange := false } }

@[simp] theorem down_line (offset : UInt32) (s : Segment) :
    (s.down offset).start.line = s.start.line + offset := rfl

theorem down_order {offset : UInt32} {s : Segment}
    (fits : s.start.line.toNat + offset.toNat < 2 ^ 32) :
    (s.down offset).order = s.order + offset.toNat * 2 ^ 32 := by
  have hline : (s.start.line + offset).toNat = s.start.line.toNat + offset.toNat := by
    rw [UInt32.toNat_add, Nat.mod_eq_of_lt fits]
  change Mapping.orderOf (s.start.line + offset) s.start.column =
    Mapping.orderOf s.start.line s.start.column + _
  simp only [Mapping.orderOf, hline]
  omega

theorem down_locate {s : Segment} (plain : s.start.isRange = false) (offset column : UInt32) :
    (s.down offset).locate column = s.locate column := by
  have plain' : (s.down offset).start.isRange = false := rfl
  simp only [locate, Mapping.columnAt?_of_plain plain, Mapping.columnAt?_of_plain plain']
  rfl

end Segment

namespace SourceMap

section Numbering

variable (target : SourceMap)

theorem grows_setContent_if (target : SourceMap) (id : Nat) (content : Option String) :
    Grows target (if content.isSome then target.setContent id content else target) := by
  split
  · exact .setContent _ _ _
  · exact .refl _

theorem grows_appendSources (sources : List (String × Option String)) :
    Grows target (appendSources target sources).2 := by
  induction sources generalizing target with
  | nil => exact .refl target
  | cons pair sources ih =>
      exact (Grows.internSource target pair.1).trans ((grows_setContent_if _ _ _).trans (ih _))

theorem grows_appendNames (names : List String) : Grows target (appendNames target names).2 := by
  induction names generalizing target with
  | nil => exact .refl target
  | cons name names ih => exact (Grows.internName target name).trans (ih _)

@[simp] theorem mappings_appendSources (sources : List (String × Option String)) :
    (appendSources target sources).2.mappings = target.mappings := by
  induction sources generalizing target with
  | nil => rfl
  | cons pair sources ih =>
      refine (ih _).trans ?_
      split <;> rfl

@[simp] theorem mappings_appendNames (names : List String) :
    (appendNames target names).2.mappings = target.mappings := by
  induction names generalizing target with
  | nil => rfl
  | cons name names ih => exact ih _

/-- Every source that was added is found under its number, whatever was added after it. -/
theorem numbers_appendSources (sources : List (String × Option String)) :
    Numbers (appendSources target sources).1 (sources.map Prod.fst)
      (appendSources target sources).2.rawSources := by
  induction sources generalizing target with
  | nil => exact .nil _
  | cons pair sources ih =>
      -- The rest of the sources is added to a table that has the source of this pair already.
      have grown := (grows_setContent_if (target.internSource pair.1).2
        (placeOf pair.1 target.rawSources).1 pair.2).trans (grows_appendSources _ sources)
      exact (ih _).cons (getElem?_of_placed grown.sources)

/-- Every name that was added is found under its number, whatever was added after it. -/
theorem numbers_appendNames (names : List String) :
    Numbers (appendNames target names).1 names (appendNames target names).2.names := by
  induction names generalizing target with
  | nil => exact .nil _
  | cons name names ih =>
      have hgrows := grows_appendNames (target.internName name).2 names
      exact (ih _).cons (getElem?_of_placed hgrows.names)

end Numbering

section Append

variable (target map : SourceMap) (offset : UInt32)

/-- The new numbers of the sources of an appended map. -/
def sourceIds : List Nat :=
  (appendSources target
    (map.sources.zip ((List.range map.sources.length).map map.contentAt))).1

/-- The new numbers of the names of an appended map. -/
def nameIds : List Nat :=
  (appendNames (appendSources target
    (map.sources.zip ((List.range map.sources.length).map map.contentAt))).2 map.names).1

theorem grows_append : Grows target (append target map offset) := by
  have h := (grows_appendSources target
    (map.sources.zip ((List.range map.sources.length).map map.contentAt))).trans
    (grows_appendNames _ map.names)
  exact ⟨h.sources, h.names, h.root⟩

theorem mappings_append : (append target map offset).mappings = target.mappings ++
    map.mappings.map (moved offset (sourceIds target map) (nameIds target map)) := by
  simp [append, sourceIds, nameIds]

theorem numbers_sourceIds :
    Numbers (sourceIds target map) map.sources (append target map offset).rawSources := by
  have h := numbers_appendSources target
    (map.sources.zip ((List.range map.sources.length).map map.contentAt))
  rw [List.map_fst_zip (by simp)] at h
  exact h.mono (grows_appendNames _ map.names).sources

theorem numbers_nameIds :
    Numbers (nameIds target map) map.names (append target map offset).names :=
  numbers_appendNames _ map.names

variable {target}

theorem Built.append (built : Built target) : Built (append target map offset) where
  root := (grows_append target map offset).root.trans built.root
  source m hm id hid := by
    rw [mappings_append, List.mem_append, List.mem_map] at hm
    rcases hm with hm | ⟨n, -, rfl⟩
    · exact Nat.lt_of_lt_of_le (built.source m hm id hid)
        (grows_append target map offset).sources.length_le
    · obtain ⟨i, -, hi⟩ := Option.bind_eq_some_iff.mp hid
      exact (numbers_sourceIds target map offset).mem_lt (List.mem_of_getElem? hi)
  name m hm id hid := by
    rw [mappings_append, List.mem_append, List.mem_map] at hm
    rcases hm with hm | ⟨n, -, rfl⟩
    · exact Nat.lt_of_lt_of_le (built.name m hm id hid)
        (grows_append target map offset).names.length_le
    · obtain ⟨i, -, hi⟩ := Option.bind_eq_some_iff.mp hid
      exact (numbers_nameIds target map offset).mem_lt (List.mem_of_getElem? hi)

/-- An appended mapping means what it meant in its own map, further down. -/
theorem segment_moved (built : Built target) (m : Mapping) :
    (append target map offset).segment
        (moved offset (sourceIds target map) (nameIds target map) m) =
      (map.segment m).down offset := by
  have hroot := (built.append map offset).root
  have hsource : ((m.source.bind ((sourceIds target map)[·]?)).bind
      fun id => (append target map offset).sources[id]?) = map.sourceOf m := by
    rw [sources_of_root_none hroot, (numbers_sourceIds target map offset).bind_eq, sourceOf]
  have hname : ((m.name.bind ((nameIds target map)[·]?)).bind
      fun id => (append target map offset).names[id]?) = map.nameOf m := by
    rw [(numbers_nameIds target map offset).bind_eq, nameOf]
  exact congrArg₂ (Segment.mk _) hsource hname

/-- Appending a map adds its segments, further down, after the ones that are there. -/
theorem segments_append (built : Built target) :
    (append target map offset).segments =
      target.segments ++ map.segments.map (Segment.down offset) := by
  rw [built.segments_eq (grows_append target map offset) (mappings_append target map offset),
    segments, segments, List.map_map, List.map_map]
  congr 1
  exact List.map_congr_left fun m _ => segment_moved map offset built m

end Append

section Trace

variable {map upper lower : SourceMap} {offset line column : UInt32}

private theorem toNat_sub_one (h : line ≠ 0) : (line - 1).toNat = line.toNat - 1 := by
  have hpos : 0 < line.toNat := Nat.pos_of_ne_zero fun hzero => h (UInt32.toNat_inj.mp hzero)
  exact UInt32.toNat_sub_of_le _ _ (UInt32.le_iff_toNat_le.mpr hpos)

/-- A line below the offset is not the first one, also in the part of the map below the offset. -/
private theorem ne_zero_of_offset_lt (h : offset < line) : line ≠ 0 ∧ line - offset ≠ 0 := by
  have hlt : offset.toNat < line.toNat := h
  have hdiff : (line - offset).toNat = line.toNat - offset.toNat :=
    UInt32.toNat_sub_of_le _ _ (UInt32.le_of_lt h)
  constructor
  · rintro rfl
    exact absurd hlt (by simp)
  · intro hzero
    rw [hzero, UInt32.toNat_zero] at hdiff
    omega

/-- The line of a mapping of the lower part, moved down, is that of the mapping in the whole map. -/
private theorem sub_one_add_offset (h : offset < line) :
    line - offset - 1 + offset = line - 1 := by
  have hlt : offset.toNat < line.toNat := h
  obtain ⟨hzero, hzero'⟩ := ne_zero_of_offset_lt h
  have hbound := line.toNat_lt
  rw [← UInt32.toNat_inj, UInt32.toNat_add, toNat_sub_one hzero, toNat_sub_one hzero',
    UInt32.toNat_sub_of_le _ _ (UInt32.le_of_lt h)]
  omega

private theorem orderOf_sub_one (h : offset < line) (column : UInt32) :
    Mapping.orderOf (line - 1) column =
      Mapping.orderOf (line - offset - 1) column + offset.toNat * 2 ^ 32 := by
  have hlt : offset.toNat < line.toNat := h
  obtain ⟨hzero, hzero'⟩ := ne_zero_of_offset_lt h
  rw [Mapping.orderOf, Mapping.orderOf, toNat_sub_one hzero, toNat_sub_one hzero',
    UInt32.toNat_sub_of_le _ _ (UInt32.le_of_lt h)]
  omega

/-- Segments that start below a line do not matter to it. -/
theorem trace_above {below : List Segment} (split : map.segments = upper.segments ++ below)
    (beyond : ∀ s ∈ below, offset ≤ s.start.line) (hline : line ≤ offset) :
    map.trace line column = upper.trace line column := by
  refine eq_of_forall_ne fun traced (hne : traced ≠ some none) => ?_
  rw [trace_eq_iff hne, trace_eq_iff hne, split]
  refine and_congr_right fun hzero => exists_congr fun s => and_congr_left fun hs => ?_
  have hlt : line - 1 < offset := by
    have hpred := toNat_sub_one hzero
    have hle : line.toNat ≤ offset.toNat := hline
    have hne : line.toNat ≠ 0 := fun h => hzero (UInt32.toNat_inj.mp h)
    rw [UInt32.lt_iff_toNat_lt]
    omega
  constructor
  · intro h
    refine h.of_append_left fun hmem => ?_
    exact UInt32.not_le.mpr hlt (hs.1 ▸ beyond s hmem)
  · intro h
    refine h.append_left fun t ht => ?_
    exact Mapping.orderOf_lt_of_line_lt (UInt32.lt_of_lt_of_le hlt (beyond t ht)) _ _

/-- Below the segments that were there first, an appended map answers as it does on its own. -/
theorem trace_below {above : List Segment}
    (split : map.segments = above ++ lower.segments.map (Segment.down offset))
    (under : ∀ s ∈ above, s.start.line < offset)
    (plain : ∀ s ∈ lower.segments, s.start.isRange = false)
    (fits : ∀ s ∈ lower.segments, s.start.line.toNat + offset.toNat < 2 ^ 32)
    (hline : offset < line) :
    map.trace line column = lower.trace (line - offset) column := by
  obtain ⟨hzero, hzero'⟩ := ne_zero_of_offset_lt hline
  have hback := sub_one_add_offset hline
  have hpred : (line - 1).toNat = line.toNat - 1 := toNat_sub_one hzero
  have hlt : offset.toNat < line.toNat := hline
  have hmoved : ∀ s ∈ lower.segments,
      (s.down offset).order = s.order + offset.toNat * 2 ^ 32 :=
    fun s hs => Segment.down_order (fits s hs)
  refine eq_of_forall_ne fun traced (hne : traced ≠ some none) => ?_
  rw [trace_eq_iff hne, trace_eq_iff hne, split, orderOf_sub_one hline]
  constructor
  · rintro ⟨-, s, hs, hstart, hlocate⟩
    have habsent : s ∉ above := by
      intro hmem
      have h := UInt32.lt_iff_toNat_lt.mp (under s hmem)
      rw [hstart] at h
      omega
    obtain ⟨t, ht, rfl⟩ := (Nearest.map_iff hmoved).mp (hs.of_append_right habsent)
    refine ⟨hzero', t, ht, ?_, ?_⟩
    · rw [Segment.down_line, ← hback] at hstart
      exact (UInt32.add_left_inj offset).mp hstart
    · rwa [Segment.down_locate (plain t ht.mem)] at hlocate
  · rintro ⟨-, t, ht, hstart, hlocate⟩
    have hstart' : (t.down offset).start.line = line - 1 := by
      rw [Segment.down_line, hstart, hback]
    refine ⟨hzero, t.down offset, ?_, hstart', ?_⟩
    · refine Nearest.append_right ((Nearest.map_iff hmoved).mpr ⟨t, ht, rfl⟩) fun s hs => ?_
      refine Mapping.orderOf_lt_of_line_lt ?_ _ _
      refine UInt32.lt_of_lt_of_le (under s hs) (UInt32.le_iff_toNat_le.mpr ?_)
      rw [hstart']
      omega
    · rwa [Segment.down_locate (plain t ht.mem)]

/-- Of two halves put together each answers for its own lines. -/
theorem trace_halves
    (split : map.segments = upper.segments ++ lower.segments.map (Segment.down offset))
    (above : ∀ m ∈ upper.mappings, m.line < offset)
    (plain : ∀ m ∈ lower.mappings, m.isRange = false)
    (fits : ∀ m ∈ lower.mappings, m.line.toNat + offset.toNat < 2 ^ 32) (line column : UInt32) :
    map.trace line column =
      if line ≤ offset then upper.trace line column else lower.trace (line - offset) column := by
  split_ifs with hline
  · refine trace_above split (fun s hs => ?_) hline
    simp only [segments, List.map_map, List.mem_map] at hs
    obtain ⟨m, hm, rfl⟩ := hs
    have hfits := fits m hm
    change offset ≤ m.line + offset
    rw [UInt32.le_iff_toNat_le, UInt32.toNat_add]
    omega
  · refine trace_below split ?_ ?_ ?_ (UInt32.not_le.mp hline)
    · simpa [segments, segment] using above
    · simpa [segments, segment] using plain
    · simpa [segments, segment] using fits

end Trace

section Compose

theorem segments_empty (file : Option String) : (empty file).segments = [] := rfl

theorem trace_empty (file : Option String) (line column : UInt32) :
    (empty file).trace line column = some none := by
  by_cases hline : line = 0
  · rw [hline, trace_zero]
  · rw [trace_of_ne_zero hline]
    rfl

theorem segments_append_empty (file : Option String) (map : SourceMap) (offset : UInt32) :
    (append (empty file) map offset).segments = map.segments.map (Segment.down offset) := by
  rw [segments_append map offset (built_empty file), segments_empty, List.nil_append]

/-- The segments of a map without ranges stay as they are when they are moved nowhere. -/
theorem map_down_zero {map : SourceMap} (plain : ∀ m ∈ map.mappings, m.isRange = false) :
    map.segments.map (Segment.down 0) = map.segments := by
  rw [segments, List.map_map]
  refine List.map_congr_left fun m hm => ?_
  have hm := plain m hm
  cases m
  simpa [Segment.down, segment, sourceOf, nameOf] using hm.symm

variable {script : Option SourceMap} {template : SourceMap} {portion : String}

/-- The parts of a composed map: what comes from the script, then the template further down. -/
theorem segments_compose (moves : script.isSome ∨ lineOffset portion ≠ 0) :
    ∃ map, compose script (some template) portion = some map ∧
      map.segments = (script.elim [] fun map => map.segments.map (Segment.down 0)) ++
        template.segments.map (Segment.down (lineOffset portion)) := by
  cases script with
  | none =>
      have hoffset : lineOffset portion ≠ 0 := by simpa using moves
      exact ⟨_, if_neg hoffset, segments_append_empty _ _ _⟩
  | some script =>
      refine ⟨_, rfl, ?_⟩
      rw [segments_append _ _ ((built_empty _).append _ _), segments_append_empty]
      rfl

/-- Every line of a composed map traces as it does in the half that it belongs to: the lines of
the script as in the script's map, or to nothing if there is none, the ones below as in the
template's. -/
theorem trace_compose (script : Option SourceMap) (template : SourceMap) (portion : String)
    (above : ∀ map ∈ script, ∀ m ∈ map.mappings, m.line < lineOffset portion)
    (plainScript : ∀ map ∈ script, ∀ m ∈ map.mappings, m.isRange = false)
    (plainTemplate : ∀ m ∈ template.mappings, m.isRange = false)
    (fits : ∀ m ∈ template.mappings, m.line.toNat + (lineOffset portion).toNat < 2 ^ 32)
    (line column : UInt32) :
    ∃ map, compose script (some template) portion = some map ∧
      map.trace line column =
        if line ≤ lineOffset portion then script.elim (some none) fun map => map.trace line column
        else template.trace (line - lineOffset portion) column := by
  by_cases moves : script.isSome ∨ lineOffset portion ≠ 0
  · obtain ⟨map, hmap, split⟩ := segments_compose moves
    refine ⟨map, hmap, ?_⟩
    cases script with
    | none =>
        change map.segments = (empty none).segments ++ _ at split
        rw [trace_halves split (by simp [empty]) plainTemplate fits, trace_empty, Option.elim_none]
    | some script =>
        rw [Option.elim_some, map_down_zero (plainScript script rfl)] at split
        exact trace_halves split (above script rfl) plainTemplate fits line column
  · obtain ⟨hscript, hoffset⟩ : script = none ∧ lineOffset portion = 0 := by
      simpa [not_or] using moves
    subst hscript
    refine ⟨template, if_pos hoffset, ?_⟩
    rw [hoffset, UInt32.sub_zero]
    split_ifs with hline
    · obtain rfl : line = 0 := UInt32.le_zero_iff.mp hline
      rfl
    · rfl

/-- A template below a script of two lines, with a source that both maps share. -/
theorem trace_compose_two_lines :
    let script : SourceMap :=
      { rawSources := ["a.ts"], mappings := [⟨0, 0, 4, 2, some 0, none, false⟩] }
    let template : SourceMap :=
      { rawSources := ["b.vue", "a.ts"], names := ["x"],
        mappings := [⟨0, 3, 7, 1, some 1, some 0, false⟩, ⟨1, 0, 8, 0, none, none, false⟩] }
    ∃ map, compose (some script) (some template) "let a\n" = some map ∧
      map.trace 3 5 = some (some ⟨"a.ts", 8, 1, some "x"⟩) := by
  intro script template
  obtain ⟨map, hmap, htrace⟩ := trace_compose (some script) template "let a\n" (by decide)
    (by decide) (by decide) (by decide) 3 5
  refine ⟨map, hmap, htrace.trans ?_⟩
  decide

end Compose

end SourceMap
end ComponentCompiler
