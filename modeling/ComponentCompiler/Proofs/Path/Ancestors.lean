import ComponentCompiler.Proofs.Path.Slashed

/-!
# The paths above a path

A parent has the parts of the path but the last (`parts_of_parent?`), and so every path above a path
has the first of its parts (`parts_of_mem_ancestors`): it leads to a place that one passes on the
way (`Disk.Passes`). A single piece that is joined to a path adds at most one component to it, and
never the slash at which a path starts anew (`components_join_piece`).
-/

namespace ComponentCompiler

open Text

namespace Path

variable {path above other : Path} {piece : List Char}

/-- The pieces that count are the same with and without the start of the path. -/
theorem parts_eq_filter (path : Path) :
    path.parts = (pieces '/' path.text.toList).filter (!isSilent ·) := by
  cases h : path.isAbsolute with
  | false => exact parts_of_relative h
  | true =>
      obtain ⟨s, hs⟩ := exists_text_of_isAbsolute h
      rw [parts, hs, body_cons, pieces_separator_cons]
      rfl

/-! ### Parents -/

/-- How a path starts, and the pieces after that. -/
theorem body_cases (s : List Char) :
    (lead s = ['/'] ∧ s.head? = some '/' ∧ ∃ rest, body s = pieces '/' rest) ∨
      (lead s = ['.'] ∧ s.head? = some '.' ∧ ∃ rest, body s = [] :: pieces '/' rest ∨
        body s = [[]]) ∨
      (lead s = [] ∧ s.head? ≠ some '/' ∧ body s = pieces '/' s) := by
  unfold body lead
  split
  · exact .inl ⟨rfl, rfl, _, rfl⟩
  · exact .inr (.inl ⟨rfl, rfl, [], .inr rfl⟩)
  · rename_i rest
    exact .inr (.inl ⟨rfl, rfl, rest, .inl (pieces_separator_cons _)⟩)
  · rename_i hslash _ _
    refine .inr (.inr ⟨rfl, ?_, rfl⟩)
    cases s with
    | nil => simp
    | cons c s =>
        intro hhead
        obtain rfl : c = '/' := by simpa using hhead
        exact hslash s rfl

theorem slash_not_mem_of_mem_body {s : List Char} (h : piece ∈ body s) : '/' ∉ piece :=
  not_mem_of_mem_pieces h

/-- The first pieces of a path, put behind its start again, are a path that starts alike and has
these pieces. -/
theorem joined_front {s : List Char} {kept : List (List Char)} (h : kept <+: body s) :
    ((lead s ++ joined ['/'] kept).head? = some '/' ↔ s.head? = some '/') ∧
      (pieces '/' (lead s ++ joined ['/'] kept)).filter (!isSilent ·) =
        kept.filter (!isSilent ·) := by
  cases kept with
  | nil =>
      rcases body_cases s with ⟨hlead, hhead, -⟩ | ⟨hlead, hhead, -⟩ | ⟨hlead, hhead, -⟩
      · rw [hlead, hhead]
        exact ⟨Iff.rfl, rfl⟩
      · rw [hlead, hhead]
        exact ⟨Iff.rfl, rfl⟩
      · rw [hlead]
        exact ⟨by simpa [joined] using hhead, rfl⟩
  | cons first more =>
      have hjoined : pieces '/' (joined ['/'] (first :: more)) = first :: more :=
        pieces_joined (List.cons_ne_nil _ _) fun q hq => slash_not_mem_of_mem_body (h.subset hq)
      rcases body_cases s with ⟨hlead, hhead, -⟩ | ⟨hlead, hhead, rest, hbody⟩ |
        ⟨hlead, hhead, hbody⟩
      · rw [hlead, hhead, List.singleton_append, pieces_separator_cons, hjoined]
        exact ⟨Iff.rfl, rfl⟩
      · -- The start is a dot, so that the first of the other pieces is empty.
        obtain rfl : first = [] := by
          obtain ⟨tail, h⟩ := h
          rcases hbody with hbody | hbody <;> rw [hbody] at h <;> exact (List.cons.inj h).1
        rw [hlead, hhead]
        refine ⟨Iff.rfl, ?_⟩
        cases more with
        | nil => rfl
        | cons next more =>
            have hslash : joined ['/'] ([] :: next :: more) = '/' :: joined ['/'] (next :: more) :=
              rfl
            rw [hslash, pieces_separator_cons] at hjoined
            rw [hslash, pieces_append_of_not_mem (by decide), (List.cons.inj hjoined).2]
            rfl
      · rw [hlead, List.nil_append, hjoined]
        refine ⟨iff_of_false ?_ hhead, rfl⟩
        cases s with
        | nil =>
            obtain ⟨tail, h⟩ := h
            obtain ⟨rfl, hmore⟩ := List.cons.inj (h.trans hbody)
            obtain rfl : more = [] := (List.append_eq_nil_iff.mp hmore).1
            simp [joined]
        | cons c s =>
            have hc : c ≠ '/' := by simpa using hhead
            obtain ⟨front, rest, -, hpieces⟩ := pieces_cons_of_ne hc s
            obtain ⟨tail, h⟩ := h
            rw [hbody, hpieces] at h
            obtain ⟨rfl, -⟩ := List.cons.inj h
            cases more <;> simpa [joined] using hc

theorem filter_dropTail (kept : List (List Char)) :
    (dropTail isSilent kept).filter (!isSilent ·) = kept.filter (!isSilent ·) := by
  obtain ⟨tail, hkept, htail⟩ := dropTail_append isSilent kept
  have hsilent : tail.filter (!isSilent ·) = [] :=
    List.filter_eq_nil_iff.mpr fun q hq => by simp [htail q hq]
  calc (dropTail isSilent kept).filter (!isSilent ·)
    _ = (dropTail isSilent kept ++ tail).filter (!isSilent ·) := by
      rw [List.filter_append, hsilent, List.append_nil]
    _ = kept.filter (!isSilent ·) := by rw [← hkept]

/-- A parent starts like the path, and has its parts but the last. -/
theorem parts_of_parent? (h : path.parent? = some above) :
    above.isAbsolute = path.isAbsolute ∧ above.parts = path.parts.dropLast := by
  have hparts : (dropTail isSilent (body path.text.toList)).filter (!isSilent ·) = path.parts :=
    filter_dropTail _
  rw [parent?] at h
  split at h
  · rename_i hempty
    rw [List.reverse_eq_nil_iff.mp hempty] at hparts
    split at h
    · rename_i hdot
      cases h
      rw [← hparts]
      refine ⟨?_, rfl⟩
      rcases body_cases path.text.toList with ⟨hlead, -⟩ | ⟨-, hhead, -⟩ | ⟨hlead, -⟩
      · rw [hlead] at hdot
        cases hdot
      · rw [isAbsolute, isAbsolute, hhead]
        rfl
      · rw [hlead] at hdot
        cases hdot
    · cases h
  · rename_i last kept hlast
    cases h
    have hloud : isSilent last = false := last_dropTail hlast
    have hkept := List.reverse_eq_cons_iff.mp hlast
    have hfront : dropTail isSilent kept.reverse <+: body path.text.toList :=
      (prefix_dropTail _ _).trans
        ((List.prefix_append _ [last]).trans (hkept ▸ prefix_dropTail _ _))
    obtain ⟨hhead, hpieces⟩ := joined_front hfront
    constructor
    · rw [isAbsolute, isAbsolute, String.toList_ofList, Bool.eq_iff_iff, beq_iff_eq, beq_iff_eq]
      exact hhead
    · rw [parts_eq_filter, String.toList_ofList, hpieces, filter_dropTail, ← hparts, hkept,
        List.filter_append]
      simp [hloud]

theorem parts_of_mem_climb {fuel : Nat} (h : above ∈ ancestors.climb fuel path) :
    above.isAbsolute = path.isAbsolute ∧ above.parts <+: path.parts := by
  induction fuel generalizing path with
  | zero => cases h
  | succ fuel ih =>
      rw [ancestors.climb, List.mem_cons] at h
      rcases h with rfl | h
      · exact ⟨rfl, List.prefix_rfl⟩
      · split at h
        · rename_i parent hparent
          obtain ⟨hstart, hparts⟩ := parts_of_parent? hparent
          obtain ⟨hstart', hparts'⟩ := ih h
          refine ⟨hstart'.trans hstart, hparts'.trans ?_⟩
          rw [hparts]
          exact List.dropLast_prefix _
        · cases h

/-- What lies above a path starts like the path, and has the first of its parts. -/
theorem parts_of_mem_ancestors (h : above ∈ path.ancestors) :
    above.isAbsolute = path.isAbsolute ∧ above.parts <+: path.parts :=
  parts_of_mem_climb h

/-! ### Joining one piece -/

theorem lead_cons_of_ne {c : Char} (hslash : c ≠ '/') (hdot : c ≠ '.') (s : List Char) :
    lead (c :: s) = [] := by
  unfold lead
  split <;> simp_all

/-- What comes after a slash does not change how a path starts. -/
theorem lead_append {front : List Char} (h : front ≠ []) (back : List Char) :
    lead (front ++ '/' :: back) = lead front := by
  obtain ⟨c, front, rfl⟩ := List.exists_cons_of_ne_nil h
  by_cases hslash : c = '/'
  · rw [hslash]
    rfl
  · by_cases hdot : c = '.'
    · rw [hdot]
      cases front with
      | nil => rfl
      | cons d front =>
          unfold lead
          split <;> simp_all
    · rw [List.cons_append, lead_cons_of_ne hslash hdot, lead_cons_of_ne hslash hdot]

/-- Joining a relative path changes neither how a path starts nor the parts it has. -/
theorem join_keeps (hother : other.isAbsolute = false) (path : Path) :
    (path.join other).isAbsolute = path.isAbsolute ∧
      (path.join other).parts = path.parts ++ other.parts ∧
      (path.text.toList ≠ [] →
        lead (path.join other).text.toList = lead path.text.toList) := by
  by_cases hpath : path.text.toList = []
  · have hempty : path.text.isEmpty = true := by simpa using hpath
    have hparts : path.parts = [] := by rw [parts, hpath]; rfl
    rw [join, hempty, Bool.or_true, if_pos rfl, hparts, hother, isAbsolute, hpath]
    exact ⟨rfl, rfl, fun h => absurd rfl h⟩
  · obtain ⟨front, hfront, hjoin⟩ := join_of_relative hother hpath
    have hlead : lead (path.join other).text.toList = lead path.text.toList := by
      rw [hjoin]
      rcases hfront with hfront | hfront
      · rw [hfront] at hpath ⊢
        exact lead_append hpath _
      · rw [hfront]
        cases front with
        | nil => rfl
        | cons c front =>
            rw [lead_append (List.cons_ne_nil c front), lead_append (List.cons_ne_nil c front)]
    refine ⟨?_, ?_, fun _ => hlead⟩
    · rw [isAbsolute, isAbsolute, hjoin]
      rcases hfront with hfront | hfront
      · rw [hfront] at hpath ⊢
        obtain ⟨c, front, rfl⟩ := List.exists_cons_of_ne_nil hpath
        rfl
      · rw [hfront]
        cases front <;> rfl
    · rw [parts_eq_filter, hjoin, pieces_append, List.filter_append, ← parts_eq_filter other,
        parts_eq_filter path]
      rcases hfront with hfront | hfront
      · rw [hfront]
      · rw [hfront, pieces_append, List.filter_append]
        simp [pieces, isSilent]

theorem parts_piece (hslash : '/' ∉ piece) :
    (Path.mk (String.ofList piece)).parts = [piece].filter (!isSilent ·) := by
  rw [parts_eq_filter, String.toList_ofList, pieces_of_not_mem hslash]

/-- A piece that is joined to a path comes after its components: it is a name, or does not count
except as the dot at the start of a path. -/
theorem components_join_piece (hslash : '/' ∉ piece) (hup : piece ≠ ['.', '.']) (path : Path) :
    ∃ added, (path.join ⟨String.ofList piece⟩).components = path.components ++ added ∧
      ∀ c ∈ added, c = .here ∨ isSilent piece = false ∧ c = .name piece := by
  have hrelative : (Path.mk (String.ofList piece)).isAbsolute = false :=
    isAbsolute_of_not_mem (by simpa using hslash)
  have hname : ∀ c ∈ ([piece].filter (!isSilent ·)).map componentOf,
      isSilent piece = false ∧ c = .name piece := by
    intro c hc
    obtain ⟨part, hpart, rfl⟩ := List.mem_map.mp hc
    obtain ⟨hmem, hloud⟩ := List.mem_filter.mp hpart
    obtain rfl := List.mem_singleton.mp hmem
    exact ⟨by simpa using hloud, by rw [componentOf, if_neg hup]⟩
  obtain ⟨-, hparts, hlead⟩ := join_keeps hrelative path
  rw [parts_piece hslash] at hparts
  rw [components_eq, components_eq, hparts, List.map_append, ← List.append_assoc]
  by_cases hpath : path.text.toList = []
  · have hempty : path.text.isEmpty = true := by simpa using hpath
    have hnone : path.parts = [] := by rw [parts, hpath]; rfl
    have hstart : leadComponents path.text.toList = [] := by rw [hpath]; rfl
    rw [join, hempty, Bool.or_true, if_pos rfl, hnone, hstart, List.map_nil, List.append_nil]
    refine ⟨_, (List.nil_append _).symm, fun c hc => ?_⟩
    rw [List.mem_append] at hc
    rcases hc with hc | hc
    · have hroot : Component.root ∉ leadComponents (String.ofList piece).toList := by
        rw [root_mem_leadComponents_iff]
        simpa [isAbsolute] using hrelative
      rcases leadComponents_cases (String.ofList piece).toList with h | h | h
      · rw [h] at hc
        cases hc
      · rw [h] at hroot
        exact absurd (List.mem_singleton_self _) hroot
      · rw [h] at hc
        exact .inl (List.mem_singleton.mp hc)
    · exact .inr (hname c hc)
  · rw [leadComponents, leadComponents, hlead hpath]
    exact ⟨_, rfl, fun c hc => .inr (hname c hc)⟩

end Path

namespace Disk

variable {path above : Path}

/-- The place to which a path leads through some directories on the way. -/
theorem spot_eq_parts (here : Place) (path : Path) :
    spot here path = path.parts.foldl move (if path.isAbsolute then [] else here) := by
  rw [spot, Path.parts_eq_filter, foldl_move_filter]

/-- A place that one passes on the way that a path leads, its end included. -/
def Passes (here : Place) (path : Path) (p : Place) : Prop :=
  ∃ front, front <+: path.parts ∧
    p = front.foldl move (if path.isAbsolute then [] else here)

/-- What lies above a path leads to a place on the way. -/
theorem passes_of_mem_ancestors (here : Place) (h : above ∈ path.ancestors) :
    Passes here path (spot here above) := by
  obtain ⟨hstart, hparts⟩ := Path.parts_of_mem_ancestors h
  exact ⟨above.parts, hparts, by rw [spot_eq_parts, hstart]⟩

theorem Passes.of_parent? {here : Place} {p : Place} (h : path.parent? = some above)
    (hpasses : Passes here above p) : Passes here path p := by
  obtain ⟨hstart, hparts⟩ := Path.parts_of_parent? h
  obtain ⟨front, hfront, rfl⟩ := hpasses
  rw [hparts] at hfront
  exact ⟨front, hfront.trans (List.dropLast_prefix _), by rw [hstart]⟩

end Disk
end ComponentCompiler
