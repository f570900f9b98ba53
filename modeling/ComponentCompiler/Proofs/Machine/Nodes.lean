import ComponentCompiler.Machine.Disk
import ComponentCompiler.Proofs.Results
import ComponentCompiler.Proofs.Text.Lines

/-!
# The nodes of a disk

What the primitive changes of a disk do to the node at each place, and when a path can be walked:
every place on its way (`trail`) has to be a directory, and then its text alone determines where it
leads (`spot`). A disk is sound if its names are names and every node stands in a directory.
-/

namespace ComponentCompiler

namespace Node

/-- What a file holds; a directory holds no text. -/
def content? : Node → Option Content
  | file content _ => some content
  | directory _ => none

/-- What a file holds and when it was modified. -/
def file? : Node → Option (Content × Timestamp)
  | file content time => some (content, time)
  | directory _ => none

@[simp] theorem content?_modifiedAt (time : Timestamp) (node : Node) :
    (node.modifiedAt time).content? = node.content? := by
  cases node <;> rfl

@[simp] theorem isDirectory_modifiedAt (time : Timestamp) (node : Node) :
    (node.modifiedAt time).isDirectory = node.isDirectory := by
  cases node <;> rfl

theorem content?_eq_map (node : Node) : node.content? = node.file?.map (·.1) := by
  cases node <;> rfl

end Node

namespace Disk

section Nodes

variable {disk : Disk} {place p : Place} {node : Node}

/-- Below the root, the first node that is stored for a place counts. -/
theorem node?_of_ne_nil (disk : Disk) (h : p ≠ []) :
    disk.node? p = (disk.nodes.find? fun entry => entry.1 == p).map (·.2) := by
  cases p with
  | nil => exact absurd rfl h
  | cons _ _ => rfl

@[simp] theorem node?_nil (disk : Disk) : disk.node? [] = some (.directory ⟨0, 0⟩) := rfl

/-- Dropping entries by their places matters only to places that are dropped. -/
theorem find?_filter_place (nodes : List (Place × Node)) (keep : Place → Bool) (p : Place) :
    ((nodes.filter fun entry => keep entry.1).find? fun entry => entry.1 == p) =
      if keep p then nodes.find? fun entry => entry.1 == p else none := by
  induction nodes with
  | nil => simp
  | cons entry nodes ih =>
      rw [List.filter_cons]
      by_cases hp : entry.1 = p
      · cases hkeep : keep p with
        | true => simp [hp, hkeep]
        | false =>
            rw [hkeep] at ih
            simpa [hp, hkeep] using ih
      · by_cases hkeep : keep entry.1
        · simp [hkeep, hp, ih]
        · simp [hkeep, hp, ih]

theorem node?_put (disk : Disk) (h : place ≠ []) (node : Node) (p : Place) :
    (disk.put place node).node? p = if p = place then some node else disk.node? p := by
  split
  · rename_i hp
    rw [hp, node?_of_ne_nil _ h]
    simp [put]
  · rename_i hp
    by_cases hnil : p = []
    · rw [hnil]
      rfl
    · have hkeep : (p != place) = true := by simpa using hp
      rw [node?_of_ne_nil _ hnil, node?_of_ne_nil _ hnil, put,
        List.find?_cons_of_neg (by simpa using Ne.symm hp),
        find?_filter_place disk.nodes (· != place), if_pos hkeep]

/-- Setting a time changes a node, but not whether and what it is. The root has no time. -/
theorem node?_touch (disk : Disk) (place : Place) (time : Timestamp) (p : Place) :
    (disk.touch place time).node? p =
      if p = place ∧ p ≠ [] then (disk.node? p).map (Node.modifiedAt time) else disk.node? p := by
  by_cases hnil : p = []
  · rw [if_neg fun h => h.2 hnil, hnil]
    rfl
  · rw [node?_of_ne_nil _ hnil, node?_of_ne_nil _ hnil, touch, List.find?_map]
    have hkey : ((fun entry : Place × Node => entry.1 == p) ∘ fun entry : Place × Node =>
        if entry.1 = place then (place, entry.2.modifiedAt time) else entry) =
          fun entry => entry.1 == p := by
      funext entry
      by_cases hentry : entry.1 = place <;> simp [hentry]
    rw [hkey]
    cases hfind : disk.nodes.find? fun entry => entry.1 == p with
    | none => simp
    | some entry =>
        obtain rfl : entry.1 = p := by simpa using List.find?_some hfind
        by_cases hentry : entry.1 = place
        · have hplace : place ≠ [] := hentry ▸ hnil
          simp [hentry, hplace]
        · simp [hentry]

/-- What is left of a disk is what is not at or below the dropped place. -/
theorem node?_drop (disk : Disk) (place : Place) (now : Timestamp) (h : p ≠ []) :
    (disk.drop place now).node? p =
      if place <+: p then none
      else if p = place.dropLast then (disk.node? p).map (Node.modifiedAt now)
      else disk.node? p := by
  have hfilter : (Disk.mk (disk.nodes.filter fun entry => !place.isPrefixOf entry.1)).node? p =
      if place <+: p then none else disk.node? p := by
    rw [node?_of_ne_nil _ h, node?_of_ne_nil _ h,
      find?_filter_place disk.nodes fun p => !place.isPrefixOf p]
    by_cases hunder : place <+: p
    · rw [if_pos hunder, List.isPrefixOf_iff_prefix.mpr hunder]
      rfl
    · have hkeep : place.isPrefixOf p = false := by
        rw [← Bool.not_eq_true, List.isPrefixOf_iff_prefix]
        exact hunder
      rw [if_neg hunder, hkeep]
      rfl
  rw [drop, node?_touch, hfilter]
  by_cases hunder : place <+: p <;> simp [hunder, h]

/-- The names in a directory are those of its nodes. -/
theorem mem_names {name : String} :
    name ∈ disk.names place ↔ (disk.node? (place ++ [name])).isSome := by
  have hne : place ++ [name] ≠ [] := by simp
  rw [node?_of_ne_nil _ hne, names, List.mem_filterMap, Option.isSome_map, List.find?_isSome]
  constructor
  · rintro ⟨entry, hmem, hname⟩
    split at hname
    · rename_i hplace
      refine ⟨entry, hmem, ?_⟩
      obtain ⟨front, hfront⟩ := List.getLast?_eq_some_iff.mp hname
      have hdrop : entry.1.dropLast = place := by simpa using hplace
      rw [hfront, List.dropLast_concat] at hdrop
      simp [hfront, hdrop]
    · cases hname
  · rintro ⟨entry, hmem, hplace⟩
    refine ⟨entry, hmem, ?_⟩
    have hentry : entry.1 = place ++ [name] := by simpa using hplace
    simp [hentry]

/-- There is a directory at a place. -/
def IsDirectory (disk : Disk) (p : Place) : Prop := ∃ time, disk.node? p = some (.directory time)

theorem isDirectory_iff : disk.IsDirectory p ↔ (disk.node? p).any Node.isDirectory := by
  unfold IsDirectory
  cases disk.node? p with
  | none => simp
  | some node => cases node <;> simp [Node.isDirectory]

instance (disk : Disk) (p : Place) : Decidable (disk.IsDirectory p) :=
  decidable_of_iff _ isDirectory_iff.symm

/-- What the file at a place holds and when it was modified, if there is one. -/
def fileAt (disk : Disk) (p : Place) : Option (Content × Timestamp) :=
  (disk.node? p).bind Node.file?

theorem node?_of_fileAt {content : Content} {time : Timestamp}
    (h : disk.fileAt p = some (content, time)) : disk.node? p = some (.file content time) := by
  unfold fileAt at h
  cases hnode : disk.node? p with
  | none =>
      rw [hnode] at h
      cases h
  | some node =>
      rw [hnode] at h
      cases node with
      | file _ _ =>
          cases h
          rfl
      | directory _ => cases h

theorem IsDirectory.fileAt_eq_none (h : disk.IsDirectory p) : disk.fileAt p = none := by
  obtain ⟨time, h⟩ := h
  simp [fileAt, h, Node.file?]

end Nodes

section Walks

variable {disk disk' : Disk} {here place next : Place} {path : Path} {node : Node}
  {pieces : List (List Char)}

/-- Where one piece of a path leads if it can be walked. -/
def move (place : Place) (piece : List Char) : Place :=
  if Path.isSilent piece then place
  else if piece = ['.', '.'] then place.dropLast
  else place ++ [String.ofList piece]

/-- Where a path leads if it can be walked. -/
def spot (here : Place) (path : Path) : Place :=
  (Text.pieces '/' path.text.toList).foldl move (if path.isAbsolute then [] else here)

/-- The places at which the steps of a walk are taken. -/
def trail : Place → List (List Char) → List Place
  | _, [] => []
  | place, piece :: pieces => place :: trail (move place piece) pieces

theorem trail_append (place : Place) (pieces more : List (List Char)) :
    trail place (pieces ++ more) = trail place pieces ++ trail (pieces.foldl move place) more := by
  induction pieces generalizing place with
  | nil => rfl
  | cons piece pieces ih =>
      rw [List.cons_append, trail, ih]
      rfl

theorem move_of_isSilent {piece : List Char} (h : Path.isSilent piece) (place : Place) :
    move place piece = place := if_pos h

theorem foldl_move_of_isSilent (h : ∀ piece ∈ pieces, Path.isSilent piece) (place : Place) :
    pieces.foldl move place = place := by
  induction pieces with
  | nil => rfl
  | cons piece pieces ih =>
      rw [List.foldl_cons, move_of_isSilent (h piece List.mem_cons_self)]
      exact ih fun q hq => h q (List.mem_cons_of_mem piece hq)

/-- A step can be taken in a directory only. -/
theorem step_eq_ok_iff {piece : List Char} :
    disk.step place piece = .ok next ↔ disk.IsDirectory place ∧ next = move place piece := by
  unfold step IsDirectory move
  cases disk.node? place with
  | none => simp
  | some node =>
      cases node with
      | file _ _ => simp
      | directory _ =>
          simp only [Option.some.injEq, Node.directory.injEq, exists_eq', true_and]
          split
          · simp [eq_comm]
          · split <;> simp [eq_comm]

/-- A walk succeeds exactly if it is taken through directories. -/
theorem foldlM_step_eq_ok_iff :
    pieces.foldlM disk.step place = .ok next ↔
      (∀ q ∈ trail place pieces, disk.IsDirectory q) ∧ next = pieces.foldl move place := by
  induction pieces generalizing place with
  | nil => simpa [trail, pure, Except.pure] using eq_comm
  | cons piece pieces ih =>
      rw [List.foldlM_cons, trail, List.forall_mem_cons, List.foldl_cons]
      constructor
      · intro h
        obtain ⟨middle, hstep, h⟩ := bind_eq_ok h
        obtain ⟨hplace, rfl⟩ := step_eq_ok_iff.mp hstep
        obtain ⟨htrail, hnext⟩ := ih.mp h
        exact ⟨⟨hplace, htrail⟩, hnext⟩
      · rintro ⟨⟨hplace, htrail⟩, hnext⟩
        rw [step_eq_ok_iff.mpr ⟨hplace, rfl⟩]
        exact ih.mpr ⟨htrail, hnext⟩

/-- The pieces that a walk starts with lead to the spot of the path. -/
theorem start_eq_ok {first : Place} (h : start here path = .ok (first, pieces)) :
    pieces.foldl move first = spot here path := by
  unfold start at h
  simp only at h
  split at h
  · cases h
  · split at h
    · cases h
    · split at h
      · rename_i habsolute
        cases h
        rw [spot, if_pos habsolute]
        cases htext : path.text.toList with
        | nil => simp [Path.isAbsolute, htext] at habsolute
        | cons c s =>
            obtain rfl : c = '/' := by simpa [Path.isAbsolute, htext] using habsolute
            rw [Text.pieces_separator_cons, List.tail_cons, List.foldl_cons,
              move_of_isSilent (by decide)]
      · rename_i hrelative
        cases h
        rw [spot, if_neg hrelative]

/-- No piece of a walk has a slash or the character that no path can have. -/
theorem not_mem_of_start {first : Place} (h : start here path = .ok (first, pieces))
    {piece : List Char} (hpiece : piece ∈ pieces) : '/' ∉ piece ∧ '\x00' ∉ piece := by
  have hmem : piece ∈ Text.pieces '/' path.text.toList ∧ '\x00' ∉ path.text.toList := by
    unfold start at h
    simp only at h
    split at h
    · cases h
    · split at h
      · cases h
      · rename_i hnull
        refine ⟨?_, by simpa using hnull⟩
        split at h <;> cases h
        · exact List.mem_of_mem_tail hpiece
        · exact hpiece
  exact ⟨Text.not_mem_of_mem_pieces hmem.1,
    fun hnull => hmem.2 (Text.mem_of_mem_pieces hmem.1 hnull)⟩

/-- The places on the way of a path. -/
def way (here : Place) (path : Path) : List Place :=
  match start here path with
  | .ok (first, pieces) => trail first pieces
  | .error _ => []

/-- What a path leads to stands at its spot, and the way there consists of directories. -/
theorem find_eq_ok_iff : disk.find here path = .ok (place, node) ↔
    (start here path).isOk ∧ (∀ q ∈ way here path, disk.IsDirectory q) ∧
      place = spot here path ∧ disk.node? place = some node := by
  unfold way
  rw [find, locate]
  cases hstart : start here path with
  | error e => simp [bind, Except.bind, Except.isOk, Except.toBool]
  | ok value =>
      obtain ⟨first, pieces⟩ := value
      rw [← start_eq_ok hstart]
      constructor
      · intro h
        obtain ⟨found, hwalk, h⟩ := bind_eq_ok h
        obtain ⟨htrail, rfl⟩ := foldlM_step_eq_ok_iff.mp hwalk
        split at h
        · cases h
          exact ⟨rfl, htrail, rfl, ‹_›⟩
        · cases h
      · rintro ⟨-, htrail, rfl, hnode⟩
        have hwalk := foldlM_step_eq_ok_iff.mpr ⟨htrail, rfl⟩
        change (pieces.foldlM disk.step first >>= _) = _
        rw [hwalk]
        simp only [bind, Except.bind, hnode]
        rfl

theorem find_eq_ok (h : disk.find here path = .ok (place, node)) :
    place = spot here path ∧ disk.node? place = some node :=
  (find_eq_ok_iff.mp h).2.2

/-- A path that leads somewhere does so on every disk with the same directories on its way. -/
theorem find_of_way (h : disk.find here path = .ok (place, node))
    (hway : ∀ q ∈ way here path, disk.IsDirectory q → disk'.IsDirectory q) {node' : Node}
    (hnode : disk'.node? place = some node') : disk'.find here path = .ok (place, node') := by
  obtain ⟨hstart, hdirectories, hplace, -⟩ := find_eq_ok_iff.mp h
  exact find_eq_ok_iff.mpr ⟨hstart, fun q hq => hway q hq (hdirectories q hq), hplace, hnode⟩

end Walks

section Sound

/-- A text that can be the name of a file. -/
def IsName (name : String) : Prop :=
  Path.isSilent name.toList = false ∧ name.toList ≠ ['.', '.'] ∧ '/' ∉ name.toList ∧
    '\x00' ∉ name.toList

instance (name : String) : Decidable (IsName name) := by unfold IsName; infer_instance

variable {disk : Disk} {here place parent : Place} {path : Path}

/-- A disk on which every node has a name and stands in a directory. -/
structure Sound (disk : Disk) : Prop where
  named : ∀ place name, (disk.node? (place ++ [name])).isSome → IsName name
  inside : ∀ place name, (disk.node? (place ++ [name])).isSome → disk.IsDirectory place

/-- A disk is sound if each entry of its list has a name and stands in a directory. -/
theorem sound_of_entries (h : ∀ entry ∈ disk.nodes, ∀ name ∈ entry.1.getLast?,
    IsName name ∧ disk.IsDirectory entry.1.dropLast) : disk.Sound := by
  have hentry : ∀ place name, (disk.node? (place ++ [name])).isSome →
      IsName name ∧ disk.IsDirectory place := by
    intro place name hsome
    have hne : place ++ [name] ≠ [] := by simp
    rw [node?_of_ne_nil _ hne, Option.isSome_map, List.find?_isSome] at hsome
    obtain ⟨entry, hmem, hplace⟩ := hsome
    have heq : entry.1 = place ++ [name] := by simpa using hplace
    have hholds := h entry hmem name (by simp [heq])
    rwa [heq, List.dropLast_concat] at hholds
  exact ⟨fun place name hsome => (hentry place name hsome).1,
    fun place name hsome => (hentry place name hsome).2⟩

/-- A new entry has a name, in a directory, at the spot of its path. -/
theorem place?_eq_ok (h : disk.place? here path = .ok (some place)) :
    place = spot here path ∧ ∃ parent name, place = parent ++ [name] ∧ IsName name ∧
      disk.IsDirectory parent := by
  obtain ⟨⟨first, pieces⟩, hstart, h⟩ := bind_eq_ok h
  rw [← start_eq_ok hstart]
  obtain ⟨tail, hpieces, htail⟩ := Text.dropTail_append List.isEmpty pieces
  have hsilent : ∀ piece ∈ tail, Path.isSilent piece := by
    intro piece hpiece
    simp [Path.isSilent, htail piece hpiece]
  rw [hpieces, List.foldl_append, foldl_move_of_isSilent hsilent]
  dsimp only at h
  split at h
  · cases h
  · rename_i last front hlast
    have hpieces' := List.reverse_eq_cons_iff.mp hlast
    obtain ⟨parent, hfront, h⟩ := bind_eq_ok h
    obtain ⟨-, rfl⟩ := foldlM_step_eq_ok_iff.mp hfront
    obtain ⟨next, hstep, h⟩ := bind_eq_ok h
    obtain ⟨hparent, rfl⟩ := step_eq_ok_iff.mp hstep
    split at h
    · cases h
    · rename_i hdots
      cases h
      rw [not_or] at hdots
      rw [hpieces', List.foldl_append]
      refine ⟨rfl, _, String.ofList last, ?_, ?_, hparent⟩
      · have hempty : last.isEmpty = false := Text.last_dropTail hlast
        have hloud : Path.isSilent last = false := by simp [Path.isSilent, hempty, hdots.1]
        simp [move, hloud, hdots.2]
      · have hmem : last ∈ pieces := by
          rw [hpieces, hpieces']
          simp
        have hempty : last.isEmpty = false := Text.last_dropTail hlast
        have hloud : Path.isSilent last = false := by simp [Path.isSilent, hempty, hdots.1]
        obtain ⟨hslash, hnull⟩ := not_mem_of_start hstart hmem
        simpa [IsName] using ⟨hloud, hdots.2, hslash, hnull⟩

end Sound

end Disk
end ComponentCompiler
