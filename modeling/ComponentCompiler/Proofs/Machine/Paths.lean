import ComponentCompiler.Proofs.Machine.Disk
import ComponentCompiler.Proofs.Path.Stored

/-!
# Where joined and stored paths lead

Joining a relative path goes on from where the first path leads (`spot_join`, `find_join`). An
absolute path leads where its parts lead, so paths with the same parts are the same to a disk, as
far as neither demands a directory by a slash or a dot at its end (`find_eq_of_parts`).
-/

namespace ComponentCompiler

open ComponentCompiler.Path Text

namespace Disk

variable {disk : Disk} {here place first : Place} {path other : Path} {pieces : List (List Char)}
  {name : String}

/-- Joining a relative path goes on from where the first path leads. -/
theorem spot_join (here : Place) (hother : other.isAbsolute = false) (path : Path) :
    spot here (path.join other) =
      (Text.pieces '/' other.text.toList).foldl move (spot here path) := by
  by_cases hpath : path.text.toList = []
  · have hempty : path.text.isEmpty = true := by simpa using hpath
    have hjoin : path.join other = other := by simp [join, hempty]
    have hroot : path.isAbsolute = false := by simp [isAbsolute, hpath]
    rw [hjoin, spot, spot, hother, hroot, hpath]
    rfl
  · obtain ⟨front, hfront, hjoin⟩ := join_of_relative hother hpath
    have hroot : (path.join other).isAbsolute = path.isAbsolute := by
      unfold isAbsolute
      rw [hjoin]
      rcases hfront with hfront | hfront
      · rw [hfront] at hpath ⊢
        cases front with
        | nil => exact absurd rfl hpath
        | cons c front => rfl
      · rw [hfront]
        cases front <;> rfl
    have hwalk (first : Place) : (Text.pieces '/' path.text.toList).foldl move first =
        (Text.pieces '/' front).foldl move first := by
      rcases hfront with hfront | hfront
      · rw [hfront]
      · rw [hfront, Text.pieces_append, List.foldl_append]
        rfl
    rw [spot, spot, hroot, hjoin, hwalk, Text.pieces_append, List.foldl_append]

/-- A piece after a path leads one step further. -/
theorem spot_join_piece (here : Place) {piece : List Char} (h : '/' ∉ piece) (path : Path) :
    spot here (path.join ⟨String.ofList piece⟩) = move (spot here path) piece := by
  have hpiece : '/' ∉ (Path.mk (String.ofList piece)).text.toList := by simpa using h
  rw [spot_join here (isAbsolute_of_not_mem hpiece), pieces_of_not_mem hpiece]
  simp

/-- A name after a path leads to the entry with that name. -/
theorem spot_join_name (here : Place) (hname : IsName name) (path : Path) :
    spot here (path.join ⟨name⟩) = spot here path ++ [name] := by
  obtain ⟨hloud, hup, hslash, -⟩ := hname
  have hpiece := spot_join_piece here hslash path
  rw [String.ofList_toList] at hpiece
  rw [hpiece]
  simp [move, hloud, hup]

/-- How a walk along a path starts, if there can be one. -/
theorem start_eq_ok_iff : start here path = .ok (first, pieces) ↔
    path.text.toList ≠ [] ∧ '\x00' ∉ path.text.toList ∧
      ((path.isAbsolute ∧ first = [] ∧ pieces = (Text.pieces '/' path.text.toList).tail) ∨
        path.isAbsolute = false ∧ first = here ∧ pieces = Text.pieces '/' path.text.toList) := by
  unfold start
  cases htext : path.text.toList with
  | nil => simp
  | cons c s =>
      by_cases hnull : '\x00' ∈ c :: s
      · simp only [List.isEmpty_cons, Bool.false_eq_true, if_false, List.contains_iff_mem, hnull,
          if_true, not_true_eq_false, false_and, and_false, reduceCtorEq]
      · cases habsolute : path.isAbsolute <;>
          simp only [List.isEmpty_cons, Bool.false_eq_true, if_false, if_true,
            List.contains_iff_mem, hnull, not_false_eq_true, Except.ok.injEq, Prod.mk.injEq, ne_eq,
            reduceCtorEq, true_and, false_and, or_false, false_or, Bool.true_eq_false] <;>
          exact ⟨fun h => ⟨h.1.symm, h.2.symm⟩, fun h => ⟨h.1.symm, h.2.symm⟩⟩

/-- A walk along a joined path takes the pieces of both, but for an empty one between them. -/
theorem start_join (h : start here path = .ok (first, pieces))
    (hother : other.isAbsolute = false) (hnull : '\x00' ∉ other.text.toList) :
    ∃ front, (pieces = front ∨ pieces = front ++ [[]]) ∧
      start here (path.join other) = .ok (first, front ++ Text.pieces '/' other.text.toList) := by
  obtain ⟨hne, hclean, hkind⟩ := start_eq_ok_iff.mp h
  obtain ⟨front, hfront, hjoin⟩ := join_of_relative hother hne
  have hcleanJoin : '\x00' ∉ (path.join other).text.toList := by
    rw [hjoin]
    rcases hfront with hfront | hfront <;> rw [hfront] at hclean <;> simp_all
  have hneJoin : (path.join other).text.toList ≠ [] := by simp [hjoin]
  have hpieces : Text.pieces '/' path.text.toList = Text.pieces '/' front ∨
      Text.pieces '/' path.text.toList = Text.pieces '/' front ++ [[]] := by
    rcases hfront with hfront | hfront
    · exact .inl (by rw [hfront])
    · exact .inr (by rw [hfront, pieces_append]; rfl)
  obtain ⟨head, tail, hcons⟩ := List.exists_cons_of_ne_nil (pieces_ne_nil '/' front)
  rcases hkind with ⟨habsolute, rfl, rfl⟩ | ⟨hrelative, rfl, rfl⟩
  · refine ⟨tail, ?_, start_eq_ok_iff.mpr ⟨hneJoin, hcleanJoin, .inl ⟨?_, rfl, ?_⟩⟩⟩
    · rw [hcons] at hpieces
      rcases hpieces with hpieces | hpieces <;> rw [hpieces]
      · exact .inl rfl
      · exact .inr rfl
    · exact isAbsolute_join habsolute other
    · rw [hjoin, pieces_append, hcons]
      rfl
  · refine ⟨Text.pieces '/' front, hpieces,
      start_eq_ok_iff.mpr ⟨hneJoin, hcleanJoin, .inr ⟨?_, rfl, ?_⟩⟩⟩
    · rw [isAbsolute, hjoin]
      rcases hfront with hfront | hfront <;> rw [isAbsolute, hfront] at hrelative
      · cases front with
        | nil => exact absurd hfront hne
        | cons c front => exact hrelative
      · cases front <;> exact hrelative
    · rw [hjoin, pieces_append]

/-- A walk that ends with a name leads to the entry of the directory before it. -/
theorem find_of_start {front : List (List Char)} (hname : IsName name)
    (h : start here path = .ok (first, front ++ [name.toList]))
    (htrail : ∀ q ∈ trail first front, disk.IsDirectory q)
    (hdirectory : disk.IsDirectory (front.foldl move first)) :
    disk.find here path =
      match disk.node? (front.foldl move first ++ [name]) with
      | some node => .ok (front.foldl move first ++ [name], node)
      | none => .error .notFound := by
  obtain ⟨hloud, hup, -, -⟩ := hname
  have hwalk : (front ++ [name.toList]).foldlM disk.step first =
      .ok (front.foldl move first ++ [name]) := by
    rw [foldlM_step_eq_ok_iff, trail_append, List.forall_mem_append, List.foldl_append]
    refine ⟨⟨htrail, fun q hq => ?_⟩, ?_⟩
    · obtain rfl := List.mem_singleton.mp hq
      exact hdirectory
    · simp [move, hloud, hup]
  have hlocate : disk.locate here path = .ok (front.foldl move first ++ [name]) := by
    rw [locate, h]
    exact hwalk
  rw [find, hlocate]
  rfl

/-- A walk that ends with a name leads to the place of a new entry of the directory before it. -/
theorem place?_of_start {front : List (List Char)} (hname : IsName name)
    (h : start here path = .ok (first, front ++ [name.toList]))
    (htrail : ∀ q ∈ trail first front, disk.IsDirectory q)
    (hdirectory : disk.IsDirectory (front.foldl move first)) :
    disk.place? here path = .ok (some (front.foldl move first ++ [name])) := by
  obtain ⟨hloud, hup, -, -⟩ := hname
  have hempty : name.toList.isEmpty = false := (Bool.or_eq_false_iff.mp hloud).1
  have hdot : name.toList ≠ ['.'] := by
    intro hdot
    rw [hdot] at hloud
    cases hloud
  have hpieces : (dropTail List.isEmpty (front ++ [name.toList])).reverse =
      name.toList :: front.reverse := by simp [dropTail, hempty]
  have hmove : move (front.foldl move first) name.toList = front.foldl move first ++ [name] := by
    simp [move, hloud, hup]
  have hwalk : front.foldlM disk.step first = .ok (front.foldl move first) :=
    foldlM_step_eq_ok_iff.mpr ⟨htrail, rfl⟩
  have hstep : disk.step (front.foldl move first) name.toList =
      .ok (front.foldl move first ++ [name]) := step_eq_ok_iff.mpr ⟨hdirectory, hmove.symm⟩
  simp only [place?, h, bind, Except.bind, hpieces, List.reverse_reverse, hwalk, hstep, hdot, hup,
    or_self, if_false, pure, Except.pure]

/-- Below a directory that a path leads to, a walk along a name that is joined to the path comes to
the directory and ends with the name. -/
theorem start_join_name {time : Timestamp}
    (h : disk.find here path = .ok (place, .directory time)) (hname : IsName name) :
    ∃ first front, start here (path.join ⟨name⟩) = .ok (first, front ++ [name.toList]) ∧
      (∀ q ∈ trail first front, disk.IsDirectory q) ∧ front.foldl move first = place := by
  obtain ⟨-, -, hslash, hnull⟩ := id hname
  obtain ⟨hstart, hway, rfl, hnode⟩ := find_eq_ok_iff.mp h
  cases hstarted : start here path with
  | error e =>
      rw [hstarted] at hstart
      cases hstart
  | ok value =>
      obtain ⟨first, pieces⟩ := value
      rw [way, hstarted] at hway
      obtain ⟨front, hfront, hjoin⟩ :=
        start_join hstarted (isAbsolute_of_not_mem hslash) hnull
      rw [pieces_of_not_mem hslash] at hjoin
      refine ⟨first, front, hjoin, fun q hq => hway q ?_, ?_⟩
      · dsimp only
        rcases hfront with rfl | rfl
        · exact hq
        · rw [trail_append]
          exact List.mem_append_left _ hq
      · rw [← start_eq_ok hstarted]
        rcases hfront with rfl | rfl
        · rfl
        · rw [List.foldl_append]
          rfl

/-- Below a directory that a path leads to, a name leads to the entry of the directory. -/
theorem find_join {time : Timestamp} (h : disk.find here path = .ok (place, .directory time))
    (hname : IsName name) : disk.find here (path.join ⟨name⟩) =
      match disk.node? (place ++ [name]) with
      | some node => .ok (place ++ [name], node)
      | none => .error .notFound := by
  obtain ⟨first, front, hjoin, htrail, hlast⟩ := start_join_name h hname
  have hnode := (find_eq_ok h).2
  rw [← hlast] at hnode ⊢
  exact find_of_start hname hjoin htrail ⟨time, hnode⟩

/-- In a directory that a path leads to, a file can be put at a name that is not there. -/
theorem writeFile_join {time : Timestamp} (h : disk.find here path = .ok (place, .directory time))
    (hname : IsName name) (hnone : disk.node? (place ++ [name]) = none) (content : Content)
    (now : Timestamp) : disk.writeFile here (path.join ⟨name⟩) content now =
      .ok (disk.add (place ++ [name]) (.file content now)) := by
  obtain ⟨hloud, -, hslash, -⟩ := id hname
  obtain ⟨first, front, hjoin, htrail, hlast⟩ := start_join_name h hname
  have hnode := (find_eq_ok h).2
  rw [← hlast] at hnode hnone ⊢
  have hend : (path.join ⟨name⟩).text.toList.getLast? ≠ some '/' := by
    obtain ⟨hstart, -⟩ := find_eq_ok_iff.mp h
    have hpath : path.text.toList ≠ [] := by
      intro hempty
      rw [start, hempty] at hstart
      cases hstart
    obtain ⟨front, -, htext⟩ := join_of_relative (isAbsolute_of_not_mem hslash) hpath
    have hne : name.toList ≠ [] := by
      intro hnil
      rw [hnil] at hloud
      cases hloud
    rw [htext, List.append_cons, List.getLast?_append, List.getLast?_eq_some_getLast hne]
    intro hlast
    exact hslash (Option.some.inj hlast ▸ List.getLast_mem hne)
  rw [writeFile, place?_of_start hname hjoin htrail ⟨time, hnode⟩]
  simp only [bind, Except.bind, if_neg hend, hnone, pure, Except.pure]

/-! ### Absolute paths -/

theorem foldl_move_filter (pieces : List (List Char)) (place : Place) :
    (pieces.filter (!isSilent ·)).foldl move place = pieces.foldl move place := by
  induction pieces generalizing place with
  | nil => rfl
  | cons piece pieces ih =>
      rw [List.filter_cons]
      cases hsilent : isSilent piece with
      | true =>
          rw [List.foldl_cons, move_of_isSilent hsilent]
          exact ih place
      | false =>
          rw [List.foldl_cons, ← ih]
          rfl

/-- A walk by names leads further down. -/
theorem foldl_move_names {parts : List (List Char)}
    (h : ∀ part ∈ parts, Path.isSilent part = false ∧ part ≠ ['.', '.']) (place : Place) :
    parts.foldl move place = place ++ parts.map String.ofList := by
  induction parts generalizing place with
  | nil => simp
  | cons part parts ih =>
      obtain ⟨hloud, hup⟩ := h part List.mem_cons_self
      have hmove : move place part = place ++ [String.ofList part] := by simp [move, hloud, hup]
      rw [List.foldl_cons, hmove, ih fun part hpart => h part (List.mem_cons_of_mem _ hpart)]
      simp

/-- An absolute path leads where its parts lead from the root. -/
theorem spot_of_isAbsolute (h : path.isAbsolute) (here : Place) :
    spot here path = path.parts.foldl move [] := by
  obtain ⟨s, hs⟩ := exists_text_of_isAbsolute h
  rw [spot, if_pos h, parts, foldl_move_filter, hs, body_cons, pieces_separator_cons,
    List.foldl_cons, move_of_isSilent (by decide)]

/-- A piece that does not count makes no difference before another step. -/
theorem step_silent_step {piece : List Char} (h : isSilent piece) (next : List Char) :
    (disk.step place piece >>= fun p => disk.step p next) = disk.step place next := by
  have hpiece : disk.step place piece = (disk.step place next).map fun _ => place := by
    unfold step
    cases disk.node? place with
    | none => rfl
    | some node =>
        cases node with
        | file _ _ => rfl
        | directory _ =>
            simp only [h, if_true]
            split
            · rfl
            · split <;> rfl
  rw [hpiece]
  cases hnext : disk.step place next with
  | error e => rfl
  | ok p => exact hnext

theorem foldlM_step_filter {last : List Char} (hlast : isSilent last = false) :
    (pieces ++ [last]).foldlM disk.step place =
      ((pieces ++ [last]).filter (!isSilent ·)).foldlM disk.step place := by
  induction pieces generalizing place with
  | nil => simp [hlast]
  | cons piece pieces ih =>
      rw [List.cons_append, List.filter_cons, List.foldlM_cons]
      cases hsilent : isSilent piece with
      | false =>
          simp only [Bool.not_false, if_true, List.foldlM_cons]
          congr 1
          funext next
          exact ih
      | true =>
          simp only [Bool.not_true, Bool.false_eq_true, if_false]
          rw [← ih]
          obtain ⟨next, more, hmore⟩ := List.exists_cons_of_ne_nil
            (List.append_ne_nil_of_right_ne_nil pieces (List.cons_ne_nil last []))
          simp only [hmore, List.foldlM_cons]
          rw [← bind_assoc, step_silent_step hsilent]

theorem null_mem_iff (h : path.isAbsolute) :
    '\x00' ∈ path.text.toList ↔ ∃ part ∈ path.parts, '\x00' ∈ part := by
  obtain ⟨s, hs⟩ := exists_text_of_isAbsolute h
  rw [parts, hs, body_cons]
  constructor
  · intro hmem
    have hs : '\x00' ∈ s := by simpa using hmem
    obtain ⟨piece, hpiece, hnull⟩ := exists_mem_pieces hs (by decide : '\x00' ≠ '/')
    refine ⟨piece, List.mem_filter.mpr ⟨hpiece, ?_⟩, hnull⟩
    have hne : piece ≠ [] := List.ne_nil_of_mem hnull
    have hdot : piece ≠ ['.'] := by
      rintro rfl
      simp at hnull
    simp [isSilent, hne, hdot]
  · rintro ⟨part, hpart, hnull⟩
    exact List.mem_cons_of_mem _ (mem_of_mem_pieces (List.mem_filter.mp hpart).1 hnull)

/-- A path that ends in a part leads where its parts lead, or fails as they do. -/
theorem locate_of_endsInPart (h : path.isAbsolute) (hends : path.endsInPart) :
    disk.locate here path =
      if ∃ part ∈ path.parts, '\x00' ∈ part then .error .invalidPath
      else path.parts.foldlM disk.step [] := by
  obtain ⟨s, hs⟩ := exists_text_of_isAbsolute h
  split
  · rename_i hnull
    have hmem := (null_mem_iff h).mpr hnull
    have hstart : start here path = .error .invalidPath := by
      rw [hs] at hmem
      simp [start, hs, hmem]
    rw [locate, hstart]
    rfl
  · rename_i hclean
    have hmem := mt (null_mem_iff h).mp hclean
    have hstart : start here path = .ok ([], pieces '/' s) :=
      start_eq_ok_iff.mpr ⟨by simp [hs], hmem, .inl ⟨h, rfl, by simp [hs]⟩⟩
    obtain ⟨last, hlast, hloud⟩ := endsInPart_iff.mp hends
    obtain ⟨front, hfront⟩ := List.getLast?_eq_some_iff.mp hlast
    rw [hs, body_cons] at hfront
    rw [locate, hstart, parts, hs, body_cons, hfront, ← foldlM_step_filter hloud]
    rfl

/-- To a disk, absolute paths with the same parts are the same if both end in a part. -/
theorem find_eq_of_parts (h : path.isAbsolute) (h' : other.isAbsolute)
    (hparts : path.parts = other.parts) (hends : path.endsInPart) (hends' : other.endsInPart)
    (here here' : Place) : disk.find here path = disk.find here' other := by
  rw [find, find, locate_of_endsInPart h hends, locate_of_endsInPart h' hends', hparts]

theorem mem_trail_of_filter {q : Place} {pieces : List (List Char)}
    (h : q ∈ trail place (pieces.filter (!isSilent ·))) : q ∈ trail place pieces := by
  induction pieces generalizing place with
  | nil => exact h
  | cons piece pieces ih =>
      rw [List.filter_cons] at h
      rw [trail]
      cases hsilent : isSilent piece with
      | true =>
          rw [hsilent] at h
          rw [move_of_isSilent hsilent]
          exact List.mem_cons_of_mem _ (ih h)
      | false =>
          rw [hsilent] at h
          rcases List.mem_cons.mp h with rfl | h
          · exact List.mem_cons_self
          · exact List.mem_cons_of_mem _ (ih h)

/-- What an absolute path leads to is found by every path with the same parts that ends in a part,
also if the path itself ends in a slash. -/
theorem find_of_parts (h : path.isAbsolute) (h' : other.isAbsolute)
    (hparts : other.parts = path.parts) (hends : other.endsInPart) {found : Place × Node}
    (hfind : disk.find here path = .ok found) (here' : Place) :
    disk.find here' other = .ok found := by
  obtain ⟨s, hs⟩ := exists_text_of_isAbsolute h
  obtain ⟨place, hlocate, hnode⟩ := bind_eq_ok hfind
  obtain ⟨⟨first, walked⟩, hstart, hwalk⟩ := bind_eq_ok hlocate
  obtain ⟨-, hclean, hkind⟩ := start_eq_ok_iff.mp hstart
  obtain ⟨rfl, rfl⟩ : first = [] ∧ walked = pieces '/' s := by
    rcases hkind with ⟨-, hfirst, hwalked⟩ | ⟨hrelative, -, -⟩
    · exact ⟨hfirst, by simpa [hs] using hwalked⟩
    · rw [h] at hrelative
      cases hrelative
  obtain ⟨htrail, rfl⟩ := foldlM_step_eq_ok_iff.mp hwalk
  have hpath : path.parts = (pieces '/' s).filter (!isSilent ·) := by rw [parts, hs, body_cons]
  have hwalk' : other.parts.foldlM disk.step [] = .ok ((pieces '/' s).foldl move []) := by
    rw [hparts, hpath, foldlM_step_eq_ok_iff]
    exact ⟨fun q hq => htrail q (mem_trail_of_filter hq), (foldl_move_filter _ _).symm⟩
  rw [null_mem_iff h, ← hparts] at hclean
  rw [find, locate_of_endsInPart h' hends, if_neg hclean, hwalk']
  exact hnode

end Disk
end ComponentCompiler
