import ComponentCompiler.SourceMap.Basic

/-!
# What tracing makes of mappings

Tracing takes no notice of a mapping that repeats the one before it, nor of what a mapping without a
source says of sources. Maps with the same mappings, but for these, trace alike
(`trace_eq_of_mappings`).
-/

namespace ComponentCompiler

/-- A mapping as far as it can be traced: without a source it only ends the segment before it. -/
def Mapping.settled (m : Mapping) : Mapping :=
  if m.source.isSome then m else { m with sourceLine := 0, sourceColumn := 0, name := none }

namespace SourceMap

/-- The mappings that are written: those that do not repeat the one before them. -/
def withoutRepeats : (previous : Option Mapping) → List Mapping → List Mapping
  | _, [] => []
  | previous, m :: rest =>
    if previous = some m then withoutRepeats (some m) rest else m :: withoutRepeats (some m) rest

theorem find?_withoutRepeats {p : Mapping → Bool} {ms : List Mapping} {previous : Option Mapping}
    (h : ∀ m ∈ previous, p m = false) : (withoutRepeats previous ms).find? p = ms.find? p := by
  induction ms generalizing previous with
  | nil => rfl
  | cons m ms ih =>
      rw [withoutRepeats]
      cases hm : p m with
      | true =>
          have hnew : previous ≠ some m := fun hsome => by simp [h m hsome] at hm
          rw [if_neg hnew, List.find?_cons_of_pos hm, List.find?_cons_of_pos hm]
      | false =>
          have hnext : (withoutRepeats (some m) ms).find? p = ms.find? p :=
            ih (by rintro _ ⟨⟩; exact hm)
          rw [List.find?_cons_of_neg (by simp [hm]), ← hnext]
          split
          · rfl
          · rw [List.find?_cons_of_neg (by simp [hm])]

theorem later_some_of_le {b m : Mapping} (h : b.order ≤ m.order) : later (some b) m = some m :=
  if_pos h

theorem later_later (best : Option Mapping) (m : Mapping) :
    later (later best m) m = later best m := by
  cases best with
  | none => exact later_some_of_le (Nat.le_refl m.order)
  | some b =>
      by_cases h : b.order ≤ m.order
      · rw [later_some_of_le h, later_some_of_le (Nat.le_refl m.order)]
      · have hkept : later (some b) m = some b := if_neg h
        rw [hkept, hkept]

theorem foldl_withoutRepeats {p : Mapping → Bool} {ms : List Mapping}
    {previous best : Option Mapping} (h : ∀ m ∈ previous, p m → later best m = best) :
    ((withoutRepeats previous ms).filter p).foldl later best = (ms.filter p).foldl later best := by
  induction ms generalizing previous best with
  | nil => rfl
  | cons m ms ih =>
      rw [withoutRepeats]
      cases hm : p m with
      | true =>
          rw [List.filter_cons_of_pos hm, List.foldl_cons]
          split
          · rename_i hrepeats
            rw [h m hrepeats hm]
            exact ih (by rintro _ ⟨⟩; exact h m hrepeats)
          · rw [List.filter_cons_of_pos hm, List.foldl_cons]
            exact ih (by rintro _ ⟨⟩ -; exact later_later best m)
      | false =>
          have hnext : ((withoutRepeats (some m) ms).filter p).foldl later best =
              (ms.filter p).foldl later best := ih (by rintro _ ⟨⟩ hp; simp [hm] at hp)
          rw [List.filter_cons_of_neg (by simp [hm]), ← hnext]
          split
          · rfl
          · rw [List.filter_cons_of_neg (by simp [hm])]

/-- Looking up a place finds the same mapping when repeated ones are left out. -/
theorem nearest_withoutRepeats (ms : List Mapping) (place : Nat) :
    nearest (withoutRepeats none ms) place = nearest ms place := by
  rw [nearest, nearest, find?_withoutRepeats (fun _ h => by cases h),
    foldl_withoutRepeats fun _ h => by cases h]

/-- A lookup depends on the order of mappings alone. -/
theorem nearest_map {f : Mapping → Mapping} (hf : ∀ m, (f m).order = m.order)
    (ms : List Mapping) (place : Nat) :
    nearest (ms.map f) place = (nearest ms place).map f := by
  have hlater : ∀ (ms : List Mapping) (best : Option Mapping),
      (ms.map f).foldl later (best.map f) = (ms.foldl later best).map f := by
    intro ms
    induction ms with
    | nil => exact fun _ => rfl
    | cons m ms ih =>
        intro best
        rw [List.map_cons, List.foldl_cons, List.foldl_cons, ← ih]
        congr 1
        cases best with
        | none => rfl
        | some b =>
            simp only [Option.map_some, later, hf]
            split <;> rfl
  have hfind : (ms.map f).find? (fun m => m.order == place) =
      (ms.find? fun m => m.order == place).map f := by
    have hsame : ((fun m : Mapping => m.order == place) ∘ f) = fun m => m.order == place := by
      funext m
      rw [Function.comp_apply, hf]
    rw [List.find?_map, hsame]
  have hfilter : (ms.map f).filter (fun m => m.order < place) =
      (ms.filter fun m => m.order < place).map f := by
    rw [List.filter_map]
    simp only [Function.comp_def, hf]
  rw [nearest, nearest, hfind, hfilter]
  cases ms.find? fun m => m.order == place with
  | some m => rfl
  | none => exact hlater _ none

/-- What tracing says of a mapping depends on it as far as it is settled. -/
theorem traceAt_eq_of_settled {map : SourceMap} {line column : UInt32} :
    map.traceAt line column =
      ((nearest map.mappings (Mapping.orderOf line column)).map Mapping.settled).elim (some none)
        fun m => if m.line = line then map.locate m column else some none := by
  rw [traceAt, covering]
  cases nearest map.mappings (Mapping.orderOf line column) with
  | none => rfl
  | some m =>
      cases hsource : m.source with
      | none => simp [Mapping.settled, sourceOf, locate, hsource]
      | some id =>
          simp only [Mapping.settled, hsource, Option.isSome_some, if_true, Option.map_some,
            Option.elim_some, Option.bind_eq_bind, Option.bind_some]
          cases hname : map.sourceOf m with
          | none => simp [locate, hname]
          | some source =>
              by_cases hline : m.line = line <;> simp [hline]

theorem order_settled (m : Mapping) : m.settled.order = m.order := by
  rw [Mapping.settled]
  split <;> rfl

/-- Maps with the same sources and names and with the same mappings, as far as they can be traced
and but for repeated ones, trace alike. -/
theorem trace_eq_of_mappings {map read : SourceMap} (hsources : read.sources = map.sources)
    (hnames : read.names = map.names) (hmappings : read.mappings.map Mapping.settled =
      (withoutRepeats none map.mappings).map Mapping.settled) (line column : UInt32) :
    read.trace line column = map.trace line column := by
  have hnearest : ∀ place, (nearest read.mappings place).map Mapping.settled =
      (nearest map.mappings place).map Mapping.settled := by
    intro place
    rw [← nearest_map order_settled, hmappings, nearest_map order_settled,
      nearest_withoutRepeats]
  have hsource : read.sourceOf = map.sourceOf := by
    funext m
    rw [sourceOf, sourceOf, hsources]
  have hlocate : read.locate = map.locate := by
    funext m column
    rw [locate, locate, hsource, nameOf, nameOf, hnames]
  rw [trace, trace]
  cases wordDifference? line 1 with
  | none => rfl
  | some start =>
      change read.traceAt start column = map.traceAt start column
      rw [traceAt_eq_of_settled, traceAt_eq_of_settled, hnearest, hlocate]

end SourceMap
end ComponentCompiler
