import ComponentCompiler.Path
import ComponentCompiler.Proofs.Text.Lines

/-!
# Paths and the forms in which they are stored

Of the pieces between the slashes of a path only those count that are not empty and no dot
(`Path.parts`). An absolute path is told from others by its parts, up to slashes and dots that do
not count, and joining a path to another one puts their parts together. The form in which an
absolute path is stored, joined to the root again, has the parts of the path
(`parts_join_stored`), and is stored in the same form (`stored_join_stored`).
-/

namespace ComponentCompiler.Path

open Text

variable {root path other : Path}

/-- The pieces of a path that count. -/
def parts (path : Path) : List (List Char) := (body path.text.toList).filter (!isSilent ·)

theorem not_isSilent_of_mem_parts {part : List Char} (h : part ∈ path.parts) :
    isSilent part = false := by
  simpa using (List.mem_filter.mp h).2

theorem exists_text_of_isAbsolute (h : path.isAbsolute) : ∃ s, path.text.toList = '/' :: s := by
  cases htext : path.text.toList with
  | nil => simp [isAbsolute, htext] at h
  | cons c s =>
      obtain rfl : c = '/' := by simpa [isAbsolute, htext] using h
      exact ⟨s, rfl⟩

theorem isAbsolute_of_text {s : List Char} (h : path.text.toList = '/' :: s) :
    path.isAbsolute := by
  simp [isAbsolute, h]

/-- A text without slashes is relative. -/
theorem isAbsolute_of_not_mem (h : '/' ∉ path.text.toList) : path.isAbsolute = false := by
  cases htext : path.text.toList with
  | nil => simp [isAbsolute, htext]
  | cons c s =>
      rw [htext] at h
      have hc : c ≠ '/' := (List.ne_of_not_mem_cons h).symm
      simp [isAbsolute, htext, hc]

theorem body_cons (s : List Char) : body ('/' :: s) = pieces '/' s := rfl

theorem slash_not_mem_of_mem_parts {part : List Char} (h : part ∈ path.parts) : '/' ∉ part :=
  not_mem_of_mem_pieces (List.mem_filter.mp h).1

theorem componentOf_injective : Function.Injective componentOf := by
  intro part part' h
  unfold componentOf at h
  split at h <;> split at h
  · rw [‹part = _›, ‹part' = _›]
  · cases h
  · cases h
  · exact Component.name.inj h

theorem components_of_isAbsolute (h : path.isAbsolute) :
    path.components = .root :: path.parts.map componentOf := by
  obtain ⟨s, hs⟩ := exists_text_of_isAbsolute h
  simp [components, leadComponents, lead, parts, hs]

/-- Absolute paths have the same components exactly if the same pieces of them count. -/
theorem components_eq_iff (h : path.isAbsolute) (h' : other.isAbsolute) :
    path.components = other.components ↔ path.parts = other.parts := by
  rw [components_of_isAbsolute h, components_of_isAbsolute h', List.cons.injEq]
  exact ⟨fun heq => (List.map_inj_right fun _ _ => @componentOf_injective _ _).mp heq.2,
    fun heq => ⟨rfl, congrArg _ heq⟩⟩

/-! ### Joining -/

theorem join_of_isAbsolute (h : other.isAbsolute) : path.join other = other := by
  simp [join, h]

/-- What is relative comes after a slash, which is there already or is put there. -/
theorem join_of_relative (hother : other.isAbsolute = false) (hpath : path.text.toList ≠ []) :
    ∃ front, (path.text.toList = front ∨ path.text.toList = front ++ ['/']) ∧
      (path.join other).text.toList = front ++ '/' :: other.text.toList := by
  have hne : path.text.isEmpty = false := by simpa using hpath
  rw [join, hother, hne, Bool.false_or, if_neg Bool.false_ne_true]
  split
  · rename_i hlast
    obtain ⟨front, hfront⟩ := List.getLast?_eq_some_iff.mp hlast
    exact ⟨front, .inr hfront, by simp [hfront]⟩
  · exact ⟨path.text.toList, .inl rfl, by simp⟩

/-- Joining something to an absolute path puts it below the pieces of the path. -/
theorem join_of_root (h : root.isAbsolute) (hother : other.isAbsolute = false) :
    ∃ front s, (root.join other).text.toList = '/' :: s ∧
      pieces '/' s = front ++ pieces '/' other.text.toList ∧
      front.filter (!isSilent ·) = root.parts := by
  obtain ⟨r, hr⟩ := exists_text_of_isAbsolute h
  have hne : root.text.toList ≠ [] := by simp [hr]
  obtain ⟨front, hfront, hjoin⟩ := join_of_relative hother hne
  have hparts : root.parts = (pieces '/' r).filter (!isSilent ·) := by simp [parts, hr, body_cons]
  rw [hparts]
  rcases hfront with hfront | hfront
  · obtain rfl : '/' :: r = front := hr.symm.trans hfront
    exact ⟨pieces '/' r, r ++ '/' :: other.text.toList, hjoin, pieces_append _ _, rfl⟩
  · cases front with
    | nil =>
        obtain rfl : r = [] := by simpa [hr] using hfront
        exact ⟨[], other.text.toList, hjoin, rfl, rfl⟩
    | cons c front =>
        obtain ⟨rfl, rfl⟩ : '/' = c ∧ r = front ++ ['/'] := by simpa [hr] using hfront
        refine ⟨pieces '/' front, front ++ '/' :: other.text.toList, hjoin, pieces_append _ _, ?_⟩
        rw [pieces_append, List.filter_append]
        simp [pieces, isSilent]

theorem isAbsolute_join (h : root.isAbsolute) (other : Path) : (root.join other).isAbsolute := by
  cases hother : other.isAbsolute with
  | true => rwa [join_of_isAbsolute hother]
  | false =>
      obtain ⟨front, s, hs, -, -⟩ := join_of_root h hother
      exact isAbsolute_of_text hs

theorem parts_join (h : root.isAbsolute) (hother : other.isAbsolute = false) :
    (root.join other).parts =
      root.parts ++ (pieces '/' other.text.toList).filter (!isSilent ·) := by
  obtain ⟨front, s, hs, hpieces, hfront⟩ := join_of_root h hother
  rw [← hfront, ← List.filter_append, ← hpieces, parts, hs, body_cons]

/-! ### Stored forms -/

theorem eq_append_of_strip {front whole rest : List Component}
    (h : inside?.strip front whole = some rest) : whole = front ++ rest := by
  induction front generalizing whole with
  | nil => simpa [inside?.strip] using h
  | cons c front ih =>
      cases whole with
      | nil => cases h
      | cons d whole =>
          rw [inside?.strip] at h
          split at h
          · rename_i hcd
            rw [hcd, ih h, List.cons_append]
          · cases h

/-- Below a root is what has its parts in front. -/
theorem parts_of_inside? (hroot : root.isAbsolute) (hpath : path.isAbsolute)
    {rest : List Component} (h : inside? root path = some rest) :
    ∃ below, path.parts = root.parts ++ below ∧ rest = below.map componentOf := by
  have hstrip := eq_append_of_strip h
  rw [components_of_isAbsolute hroot, components_of_isAbsolute hpath, List.cons_append,
    List.cons.injEq] at hstrip
  obtain ⟨front, below, hparts, hfront, hbelow⟩ := List.map_eq_append_iff.mp hstrip.2
  obtain rfl : front = root.parts :=
    (List.map_inj_right fun _ _ => @componentOf_injective _ _).mp hfront
  exact ⟨below, hparts, hbelow.symm⟩

theorem chars?_componentOf (part : List Char) : (componentOf part).chars? = some part := by
  unfold componentOf
  split
  · rename_i h
    rw [h]
    rfl
  · rfl

theorem slashedComponents_map (below : List (List Char)) :
    slashedComponents (below.map componentOf) = String.ofList (joined ['/'] below) := by
  have hchars : (below.map componentOf).filterMap Component.chars? = below := by
    rw [List.filterMap_map]
    have hsome : Component.chars? ∘ componentOf = some := funext chars?_componentOf
    rw [hsome, List.filterMap_some]
  rw [slashedComponents, hchars]

/-- An absolute path is stored as its parts below the root, or else as it is. -/
theorem stored_cases (hroot : root.isAbsolute) (hpath : path.isAbsolute) :
    (∃ below, path.parts = root.parts ++ below ∧
        root.stored path = String.ofList (joined ['/'] below)) ∨
      root.stored path = path.text := by
  unfold stored
  split
  · rename_i rest hinside
    obtain ⟨below, hparts, rfl⟩ := parts_of_inside? hroot hpath hinside
    exact .inl ⟨below, hparts, slashedComponents_map below⟩
  · exact .inr rfl

/-- Parts that are put together are a relative path with these parts. -/
theorem relative_joined {below : List (List Char)}
    (h : ∀ part ∈ below, '/' ∉ part ∧ isSilent part = false) :
    (Path.mk (String.ofList (joined ['/'] below))).isAbsolute = false ∧
      (pieces '/' (joined ['/'] below)).filter (!isSilent ·) = below := by
  cases below with
  | nil => exact ⟨by simp [isAbsolute, joined], by simp [joined, pieces, isSilent]⟩
  | cons part below =>
      constructor
      · obtain ⟨hslash, hloud⟩ := h part List.mem_cons_self
        cases part with
        | nil => simp [isSilent] at hloud
        | cons c part =>
            have hc : c ≠ '/' := (List.ne_of_not_mem_cons hslash).symm
            cases below <;> simp [isAbsolute, joined, hc]
      · rw [pieces_joined (List.cons_ne_nil _ _) fun q hq => (h q hq).1]
        exact List.filter_eq_self.mpr fun q hq => by simp [(h q hq).2]

theorem mem_parts_of_append {front below : List (List Char)} (h : path.parts = front ++ below) :
    ∀ part ∈ below, '/' ∉ part ∧ isSilent part = false := by
  intro part hpart
  have hmem : part ∈ path.parts := by
    rw [h]
    exact List.mem_append_right front hpart
  exact ⟨slash_not_mem_of_mem_parts hmem, not_isSilent_of_mem_parts hmem⟩

/-- What is stored leads back to a path with the same parts. -/
theorem parts_join_stored (hroot : root.isAbsolute) (hpath : path.isAbsolute) :
    (root.join ⟨root.stored path⟩).parts = path.parts := by
  rcases stored_cases hroot hpath with ⟨below, hparts, hstored⟩ | hstored
  · obtain ⟨hrelative, hbelow⟩ := relative_joined (mem_parts_of_append hparts)
    rw [hstored, parts_join hroot hrelative, String.toList_ofList, hbelow, hparts]
  · rw [hstored]
    exact congrArg parts (join_of_isAbsolute hpath)

/-- Paths with the same parts are stored in the same form if they are below the root. -/
theorem stored_join_stored (hroot : root.isAbsolute) (hpath : path.isAbsolute) :
    root.stored (root.join ⟨root.stored path⟩) = root.stored path := by
  have habsolute := isAbsolute_join hroot ⟨root.stored path⟩
  have hcomponents :=
    (components_eq_iff habsolute hpath).mpr (parts_join_stored hroot hpath)
  have hinside : inside? root (root.join ⟨root.stored path⟩) = inside? root path := by
    rw [inside?, inside?, hcomponents]
  cases hrest : inside? root path with
  | some rest =>
      rw [hrest] at hinside
      simp only [stored] at hinside ⊢
      rw [hinside, hrest]
  | none =>
      have htext : root.stored path = path.text := by simp [stored, hrest]
      rw [htext, join_of_isAbsolute hpath]
      exact htext

/-! ### Paths that end in a part -/

/-- Whether a path ends in a piece that counts, and not in a slash or a dot. -/
def endsInPart (path : Path) : Bool :=
  match (body path.text.toList).getLast? with
  | some last => !isSilent last
  | none => false

theorem endsInPart_iff : path.endsInPart ↔
    ∃ last, (body path.text.toList).getLast? = some last ∧ isSilent last = false := by
  unfold endsInPart
  cases (body path.text.toList).getLast? <;> simp

/-- A path that does not name the root ends in a part when it was stored, or is stored as it is. -/
theorem join_stored_cases (hroot : root.isAbsolute) (hpath : path.isAbsolute)
    (hne : path.parts ≠ root.parts) :
    (root.join ⟨root.stored path⟩).endsInPart ∨ root.join ⟨root.stored path⟩ = path := by
  rcases stored_cases hroot hpath with ⟨below, hparts, hstored⟩ | hstored
  · left
    have hbelow : below ≠ [] := by
      rintro rfl
      exact hne (by simpa using hparts)
    have hmem := mem_parts_of_append hparts
    obtain ⟨hrelative, -⟩ := relative_joined hmem
    obtain ⟨front, s, hs, hpieces, -⟩ := join_of_root hroot hrelative
    rw [hstored, endsInPart_iff, hs, body_cons, hpieces, String.toList_ofList,
      pieces_joined hbelow fun part hpart => (hmem part hpart).1]
    refine ⟨below.getLast hbelow, ?_, (hmem _ (List.getLast_mem hbelow)).2⟩
    simp [List.getLast?_append, List.getLast?_eq_some_getLast hbelow]
  · right
    rw [hstored]
    exact join_of_isAbsolute hpath

theorem endsInPart_join_stored (hroot : root.isAbsolute) (hpath : path.isAbsolute)
    (hne : path.parts ≠ root.parts) (hends : path.endsInPart) :
    (root.join ⟨root.stored path⟩).endsInPart := by
  rcases join_stored_cases hroot hpath hne with h | h
  · exact h
  · rwa [h]

end ComponentCompiler.Path
