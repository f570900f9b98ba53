import ComponentCompiler.Cache.Basic
import ComponentCompiler.Proofs.Machine.Paths

/-!
# What a path that was written down still names

There are two ways to write a path down. Its stored form below a root (`Path.stored`) loses
nothing: joined to the root it has the components of the path, so that paths with different
components have different keys (`stored_leads_back`). Its slashed form (`Path.slashed`) is meant
for what comes after a root, and has the parts of the path only: the slash or the dot at its
start is lost (`components_slashed`), so that it names the same components exactly if there was
none (`components_slashed_eq_iff`). Of a relative path it leads to the same place
(`spot_slashed`).
-/

namespace ComponentCompiler.Path

open Text

variable {root path : Path}

/-! ### Stored forms -/

/-- Joined to the root, what is stored of an absolute path has the components of the path and is
stored as before. So the keys of paths with different components are different. -/
theorem stored_leads_back (hroot : root.isAbsolute) (hpath : path.isAbsolute) :
    (root.join ⟨root.stored path⟩).components = path.components ∧
      root.stored (root.join ⟨root.stored path⟩) = root.stored path ∧
      ∀ (cache : Cache) (other : Path), cache.root = root → other.isAbsolute →
        other.components ≠ path.components → cache.keyOf other ≠ cache.keyOf path := by
  have hback {file : Path} (hfile : file.isAbsolute) :
      (root.join ⟨root.stored file⟩).components = file.components :=
    (components_eq_iff (isAbsolute_join hroot _) hfile).mpr (parts_join_stored hroot hfile)
  refine ⟨hback hpath, stored_join_stored hroot hpath, ?_⟩
  rintro cache other rfl hother hne hkey
  apply hne
  calc other.components
    _ = (cache.root.join ⟨cache.keyOf other⟩).components := (hback hother).symm
    _ = (cache.root.join ⟨cache.keyOf path⟩).components := by rw [hkey]
    _ = path.components := hback hpath

/-- A path that goes up right after the root is stored relative to it. -/
theorem stored_leads_back_outside :
    ((Path.mk "/p/").join ⟨(Path.mk "/p/").stored ⟨"/p//../q/./a.js"⟩⟩).components =
        (Path.mk "/p//../q/./a.js").components ∧
      (Path.mk "/p/").stored ((Path.mk "/p/").join ⟨(Path.mk "/p/").stored ⟨"/p//../q/./a.js"⟩⟩) =
        (Path.mk "/p/").stored ⟨"/p//../q/./a.js"⟩ ∧
      ∀ (cache : Cache) (other : Path), cache.root = ⟨"/p/"⟩ → other.isAbsolute →
        other.components ≠ (Path.mk "/p//../q/./a.js").components →
        cache.keyOf other ≠ cache.keyOf ⟨"/p//../q/./a.js"⟩ :=
  stored_leads_back (by decide) (by decide)

/-! ### Slashed forms -/

theorem components_eq (path : Path) :
    path.components = leadComponents path.text.toList ++ path.parts.map componentOf := rfl

theorem leadComponents_cases (s : List Char) :
    leadComponents s = [] ∨ leadComponents s = [.root] ∨ leadComponents s = [.here] := by
  unfold leadComponents
  split <;> simp

/-- A piece that counts is not taken for the start of a path. -/
theorem lead_eq_nil {s first : List Char} (h : (pieces '/' s).head? = some first)
    (hloud : isSilent first = false) : lead s = [] := by
  unfold lead
  split
  · rw [pieces_separator_cons, List.head?_cons, Option.some.injEq] at h
    rw [← h] at hloud
    cases hloud
  · rw [pieces_of_not_mem (by decide), List.head?_cons, Option.some.injEq] at h
    rw [← h] at hloud
    cases hloud
  · rename_i rest
    have hdot : pieces '/' ('.' :: '/' :: rest) = ['.'] :: pieces '/' rest :=
      pieces_append_of_not_mem (s := ['.']) (by decide) rest
    rw [hdot, List.head?_cons, Option.some.injEq] at h
    rw [← h] at hloud
    cases hloud
  · rfl

theorem components_joined {below : List (List Char)}
    (h : ∀ part ∈ below, '/' ∉ part ∧ isSilent part = false) :
    (Path.mk (String.ofList (joined ['/'] below))).components = below.map componentOf := by
  cases below with
  | nil => rfl
  | cons part below =>
      have hpieces : pieces '/' (joined ['/'] (part :: below)) = part :: below :=
        pieces_joined (List.cons_ne_nil _ _) fun q hq => (h q hq).1
      have hlead : lead (joined ['/'] (part :: below)) = [] :=
        lead_eq_nil (by rw [hpieces]; rfl) (h part List.mem_cons_self).2
      have hbody : body (joined ['/'] (part :: below)) = part :: below := by
        rw [body, hlead, List.length_nil, List.drop_zero, hpieces]
      have hloud : (part :: below).filter (!isSilent ·) = part :: below :=
        List.filter_eq_self.mpr fun q hq => by simp [(h q hq).2]
      rw [components, String.toList_ofList, leadComponents, hlead, hbody, hloud]
      rfl

theorem filter_components (path : Path) :
    path.components.filter (·.chars?.isSome) = path.parts.map componentOf := by
  have hparts : (path.parts.map componentOf).filter (·.chars?.isSome) =
      path.parts.map componentOf := by
    refine List.filter_eq_self.mpr fun component hmem => ?_
    obtain ⟨part, -, rfl⟩ := List.mem_map.mp hmem
    rw [chars?_componentOf]
    rfl
  rw [components_eq, List.filter_append, hparts]
  rcases leadComponents_cases path.text.toList with h | h | h <;> rw [h] <;> rfl

theorem slashed_eq (path : Path) : path.slashed = String.ofList (joined ['/'] path.parts) := by
  have hlead : (leadComponents path.text.toList).filterMap Component.chars? = [] := by
    rcases leadComponents_cases path.text.toList with h | h | h <;> rw [h] <;> rfl
  have hdrop : slashedComponents path.components =
      slashedComponents (path.parts.map componentOf) := by
    rw [slashedComponents, slashedComponents, components_eq, List.filterMap_append, hlead,
      List.nil_append]
  rw [slashed, hdrop, slashedComponents_map]

theorem piece_of_mem_parts {part : List Char} (h : part ∈ path.parts) :
    '/' ∉ part ∧ isSilent part = false :=
  ⟨slash_not_mem_of_mem_parts h, not_isSilent_of_mem_parts h⟩

/-- A slashed form, read as a path again, has the components of the path that have a text. -/
theorem components_slashed (path : Path) :
    (Path.mk path.slashed).components = path.components.filter (·.chars?.isSome) := by
  rw [slashed_eq, components_joined fun _ => piece_of_mem_parts, filter_components]

theorem root_mem_leadComponents_iff {s : List Char} :
    Component.root ∈ leadComponents s ↔ s.head? = some '/' := by
  cases s with
  | nil => simp [leadComponents, lead]
  | cons c s =>
      by_cases hc : c = '/'
      · simp [leadComponents, lead, hc]
      · have hlead : lead (c :: s) = [] ∨ lead (c :: s) = ['.'] := by
          unfold lead
          split <;> simp_all
        rcases hlead with hlead | hlead <;> simp [leadComponents, hlead, hc]

theorem root_mem_components_iff : Component.root ∈ path.components ↔ path.isAbsolute := by
  have hnames : Component.root ∉ path.parts.map componentOf := by
    intro h
    obtain ⟨part, -, hpart⟩ := List.mem_map.mp h
    have hchars := chars?_componentOf part
    rw [hpart] at hchars
    cases hchars
  rw [components_eq, List.mem_append, or_iff_left hnames, root_mem_leadComponents_iff, isAbsolute,
    beq_iff_eq]

/-- The slashed form of a path names the components of the path exactly if the path starts neither
with a slash nor with a dot. -/
theorem components_slashed_eq_iff (path : Path) :
    (Path.mk path.slashed).components = path.components ↔
      path.isAbsolute = false ∧ Component.here ∉ path.components := by
  rw [components_slashed, List.filter_eq_self, ← Bool.not_eq_true, ← root_mem_components_iff]
  constructor
  · exact fun h => ⟨fun hroot => Bool.false_ne_true (h _ hroot),
      fun hhere => Bool.false_ne_true (h _ hhere)⟩
  · rintro ⟨hroot, hhere⟩ component hmem
    cases component with
    | root => exact absurd hmem hroot
    | here => exact absurd hmem hhere
    | up => rfl
    | name chars => rfl

theorem parts_of_relative (h : path.isAbsolute = false) :
    path.parts = (pieces '/' path.text.toList).filter (!isSilent ·) := by
  rw [parts, body]
  unfold lead
  split
  · rename_i hs
    rw [isAbsolute_of_text hs] at h
    cases h
  · rename_i hs
    rw [hs]
    rfl
  · rename_i rest hs
    have hdot : pieces '/' ('.' :: '/' :: rest) = ['.'] :: pieces '/' rest :=
      pieces_append_of_not_mem (s := ['.']) (by decide) rest
    have hdrop : ('.' :: '/' :: rest).drop ['.'].length = '/' :: rest := rfl
    rw [hs, hdot, hdrop, pieces_separator_cons]
    rfl
  · rfl

/-- The slashed form of a relative path leads where the path leads. -/
theorem spot_slashed (h : path.isAbsolute = false) (here : Place) :
    Disk.spot here ⟨path.slashed⟩ = Disk.spot here path := by
  have hpieces : ∀ part ∈ path.parts, '/' ∉ part ∧ isSilent part = false :=
    fun _ => piece_of_mem_parts
  obtain ⟨hrelative, hfilter⟩ := relative_joined hpieces
  rw [← slashed_eq] at hrelative
  rw [Disk.spot, Disk.spot, hrelative, h, ← Disk.foldl_move_filter, slashed_eq,
    String.toList_ofList, hfilter, parts_of_relative h, Disk.foldl_move_filter]

end ComponentCompiler.Path
