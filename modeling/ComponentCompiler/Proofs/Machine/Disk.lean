import ComponentCompiler.Proofs.Machine.Nodes

/-!
# What operations do to a disk

Each operation that succeeds changes a disk in one of three ways: a file stands at one place
(`Rewritten`), directories are there that were not before (`Extended`), or a place is gone with
everything below it (`Pruned`). Everywhere else nothing changes but the times of directories
(`AlikeAt`), and a sound disk stays sound.

Where only the contents of the files matter there is `contentAt`. What was written through one path
is found through every other path to the same spot.
-/

namespace ComponentCompiler

namespace Disk

section Alike

variable {disk before middle after : Disk} {p place : Place} {node : Node} {time : Timestamp}

/-- At a place nothing changed, except perhaps the time of a directory. -/
def AlikeAt (before after : Disk) (p : Place) : Prop :=
  after.node? p = before.node? p ∨ before.IsDirectory p ∧ after.IsDirectory p

theorem AlikeAt.refl (disk : Disk) (p : Place) : AlikeAt disk disk p := .inl rfl

theorem AlikeAt.isDirectory_iff (h : AlikeAt before after p) :
    after.IsDirectory p ↔ before.IsDirectory p := by
  rcases h with h | ⟨hbefore, hafter⟩
  · rw [IsDirectory, IsDirectory, h]
  · exact iff_of_true hafter hbefore

theorem AlikeAt.fileAt_eq (h : AlikeAt before after p) : after.fileAt p = before.fileAt p := by
  rcases h with h | ⟨hbefore, hafter⟩
  · rw [fileAt, fileAt, h]
  · rw [hbefore.fileAt_eq_none, hafter.fileAt_eq_none]

theorem AlikeAt.isSome_iff (h : AlikeAt before after p) :
    (after.node? p).isSome ↔ (before.node? p).isSome := by
  rcases h with h | ⟨⟨t, hbefore⟩, ⟨t', hafter⟩⟩
  · rw [h]
  · simp [hbefore, hafter]

theorem AlikeAt.trans (h : AlikeAt before middle p) (h' : AlikeAt middle after p) :
    AlikeAt before after p := by
  rcases h' with h' | ⟨hmiddle, hafter⟩
  · rcases h with h | ⟨hbefore, hmiddle⟩
    · exact .inl (h'.trans h)
    · exact .inr ⟨hbefore, by rwa [IsDirectory, h']⟩
  · exact .inr ⟨h.isDirectory_iff.mp hmiddle, hafter⟩

theorem alikeAt_touch (h : disk.IsDirectory place) (time : Timestamp) (p : Place) :
    AlikeAt disk (disk.touch place time) p := by
  rw [AlikeAt, node?_touch]
  split
  · rename_i hp
    obtain ⟨rfl, hne⟩ := hp
    obtain ⟨t, h⟩ := h
    refine .inr ⟨⟨t, h⟩, time, ?_⟩
    rw [node?_touch, if_pos ⟨rfl, hne⟩, h]
    rfl
  · exact .inl rfl

end Alike

section Grown

variable {before middle after : Disk} {p : Place}

/-- At a place nothing changed, or a directory is there that was not. -/
def GrownAt (before after : Disk) (p : Place) : Prop :=
  AlikeAt before after p ∨ before.node? p = none ∧ after.IsDirectory p

theorem AlikeAt.grown (h : AlikeAt before after p) : GrownAt before after p := .inl h

theorem GrownAt.isDirectory (h : GrownAt before after p) (hp : before.IsDirectory p) :
    after.IsDirectory p := by
  rcases h with halike | ⟨hnone, -⟩
  · exact halike.isDirectory_iff.mpr hp
  · obtain ⟨time, hp⟩ := hp
    rw [hnone] at hp
    cases hp

theorem GrownAt.fileAt_eq (h : GrownAt before after p) : after.fileAt p = before.fileAt p := by
  rcases h with halike | ⟨hnone, hdirectory⟩
  · exact halike.fileAt_eq
  · rw [hdirectory.fileAt_eq_none, fileAt, hnone]
    rfl

theorem GrownAt.trans (h : GrownAt before middle p) (h' : GrownAt middle after p) :
    GrownAt before after p := by
  rcases h with halike | ⟨hnone, hdirectory⟩
  · rcases h' with halike' | ⟨hnone, hdirectory⟩
    · exact .inl (halike.trans halike')
    · refine .inr ⟨?_, hdirectory⟩
      have hsome := halike.isSome_iff
      rw [hnone] at hsome
      simpa using hsome
  · exact .inr ⟨hnone, GrownAt.isDirectory h' hdirectory⟩

end Grown

section Changes

variable {disk disk' before middle after : Disk} {here place parent : Place} {path : Path}
  {content : Content} {now : Timestamp} {name : String}

/-- Directories are there that were not, and nothing else changed. -/
structure Extended (before after : Disk) : Prop where
  nodes : ∀ p, GrownAt before after p
  sound : before.Sound → after.Sound

/-- A file stands at a place, and elsewhere there may be directories that were not there. -/
structure Rewritten (before after : Disk) (place : Place) (content : Content) : Prop where
  node : ∃ time, after.node? place = some (.file content time)
  others : ∀ p, p ≠ place → GrownAt before after p
  room : ¬before.IsDirectory place
  sound : before.Sound → after.Sound

/-- A place is gone with everything below it. -/
structure Pruned (before after : Disk) (place : Place) : Prop where
  below : ∀ p, place <+: p → after.node? p = none
  others : ∀ p, ¬place <+: p → AlikeAt before after p
  sound : before.Sound → after.Sound

theorem Extended.refl (disk : Disk) : Extended disk disk :=
  ⟨fun p => (AlikeAt.refl disk p).grown, id⟩

theorem Extended.trans (h : Extended before middle) (h' : Extended middle after) :
    Extended before after :=
  ⟨fun p => (h.nodes p).trans (h'.nodes p), fun hsound => h'.sound (h.sound hsound)⟩

theorem Extended.rewritten (h : Extended before middle)
    (h' : Rewritten middle after place content) : Rewritten before after place content where
  node := h'.node
  others p hp := (h.nodes p).trans (h'.others p hp)
  room hplace := h'.room ((h.nodes place).isDirectory hplace)
  sound hsound := h'.sound (h.sound hsound)

theorem Rewritten.isDirectory (h : Rewritten before after place content) {p : Place}
    (hp : before.IsDirectory p) : after.IsDirectory p := by
  refine (h.others p ?_).isDirectory hp
  rintro rfl
  exact h.room hp

theorem ne_append_singleton (parent : Place) (name : String) : parent ≠ parent ++ [name] := by
  intro h
  simpa using congrArg List.length h

/-- A new entry of a directory leaves a sound disk sound. -/
theorem Sound.entry (hsound : before.Sound) (hname : IsName name)
    (hparent : before.IsDirectory parent) (hroom : ¬before.IsDirectory (parent ++ [name]))
    (hothers : ∀ p, p ≠ parent ++ [name] → AlikeAt before after p) : after.Sound := by
  have hkeep : ∀ p, before.IsDirectory p → after.IsDirectory p := by
    intro p hp
    refine (hothers p ?_).isDirectory_iff.mpr hp
    rintro rfl
    exact hroom hp
  constructor
  · intro p other hother
    by_cases hp : p ++ [other] = parent ++ [name]
    · obtain ⟨-, rfl⟩ := List.append_singleton_inj.mp hp
      exact hname
    · exact hsound.named p other ((hothers _ hp).isSome_iff.mp hother)
  · intro p other hother
    by_cases hp : p ++ [other] = parent ++ [name]
    · obtain ⟨rfl, -⟩ := List.append_singleton_inj.mp hp
      exact hkeep p hparent
    · exact hkeep p (hsound.inside p other ((hothers _ hp).isSome_iff.mp hother))

/-- An added node stands at its place, and everything else is as before. -/
theorem node?_add (hparent : disk.IsDirectory parent) (name : String) (node : Node) :
    (disk.add (parent ++ [name]) node).node? (parent ++ [name]) = some node ∧
      ∀ p, p ≠ parent ++ [name] → AlikeAt disk (disk.add (parent ++ [name]) node) p := by
  have hne : parent ++ [name] ≠ [] := by simp
  rw [add, List.dropLast_concat]
  have hput := node?_put disk hne node
  have hparent' : (disk.put (parent ++ [name]) node).IsDirectory parent := by
    rw [IsDirectory, hput, if_neg (ne_append_singleton parent name)]
    exact hparent
  constructor
  · rw [node?_touch, if_neg fun h => ne_append_singleton parent name h.1.symm, hput, if_pos rfl]
  · intro p hp
    refine AlikeAt.trans (.inl ?_) (alikeAt_touch hparent' node.modified p)
    rw [hput, if_neg hp]

/-- A file that is written stands in a directory, where none is, and everything else is as
before. -/
theorem of_writeFile (h : disk.writeFile here path content now = .ok disk') :
    ∃ parent name, spot here path = parent ++ [name] ∧ IsName name ∧ disk.IsDirectory parent ∧
      ¬disk.IsDirectory (parent ++ [name]) ∧
      disk'.node? (parent ++ [name]) = some (.file content now) ∧
      ∀ p, p ≠ parent ++ [name] → AlikeAt disk disk' p := by
  obtain ⟨place, hplace, h⟩ := bind_eq_ok h
  cases place with
  | none => cases h
  | some place =>
      obtain ⟨rfl, parent, name, hspot, hname, hparent⟩ := place?_eq_ok hplace
      rw [hspot] at h ⊢
      have hne : parent ++ [name] ≠ [] := by simp
      refine ⟨parent, name, rfl, hname, hparent, ?_⟩
      dsimp only at h
      split at h
      · cases h
      · split at h
        · cases h
        · rename_i hfile
          cases h
          have hput := node?_put disk hne (.file content now)
          refine ⟨?_, by rw [hput, if_pos rfl], fun p hp => .inl (by rw [hput, if_neg hp])⟩
          rintro ⟨time, htime⟩
          rw [hfile] at htime
          cases htime
        · rename_i hnone
          cases h
          refine ⟨?_, node?_add hparent name (.file content now)⟩
          rintro ⟨time, htime⟩
          rw [hnone] at htime
          cases htime

/-- Writing a file puts it at the spot of its path, and changes nothing else. -/
theorem rewritten_writeFile (h : disk.writeFile here path content now = .ok disk') :
    Rewritten disk disk' (spot here path) content := by
  obtain ⟨parent, name, hspot, hname, hparent, hroom, hnode, hothers⟩ := of_writeFile h
  rw [hspot]
  exact ⟨⟨now, hnode⟩, fun p hp => (hothers p hp).grown, hroom,
    fun hsound => hsound.entry hname hparent hroom hothers⟩

theorem alikeAt_writeFile (h : disk.writeFile here path content now = .ok disk') {p : Place}
    (hp : p ≠ spot here path) : AlikeAt disk disk' p := by
  obtain ⟨parent, name, hspot, -, -, -, -, hothers⟩ := of_writeFile h
  exact hothers p (hspot ▸ hp)

/-- Making a directory adds it. -/
theorem extended_makeDirectory (h : disk.makeDirectory here path now = .ok disk') :
    Extended disk disk' := by
  obtain ⟨place, hplace, h⟩ := bind_eq_ok h
  cases place with
  | none => cases h
  | some place =>
      obtain ⟨-, parent, name, rfl, hname, hparent⟩ := place?_eq_ok hplace
      dsimp only at h
      split at h
      · cases h
      · rename_i habsent
        cases h
        have hnone : disk.node? (parent ++ [name]) = none := by simpa using habsent
        obtain ⟨hnode, hothers⟩ := node?_add hparent name (.directory now)
        refine ⟨fun p => ?_, fun hsound => hsound.entry hname hparent ?_ hothers⟩
        · by_cases hp : p = parent ++ [name]
          · rw [hp]
            exact .inr ⟨hnone, now, hnode⟩
          · exact (hothers p hp).grown
        · rintro ⟨time, htime⟩
          rw [hnone] at htime
          cases htime

theorem snd_settle (disk : Disk) (here : Place) (path : Path) (e : FileError) :
    (disk.settle here path e).2 = disk := by
  unfold settle
  split <;> rfl

theorem extended_makeAll (disk : Disk) (here : Place) (now : Timestamp) (paths : List Path) :
    Extended disk (makeAll here now paths disk).2 := by
  induction paths with
  | nil => exact .refl disk
  | cons path above ih =>
      rw [makeAll]
      split
      · exact .refl disk
      · split
        · exact extended_makeDirectory ‹_›
        · split
          · rename_i hmade
            rw [hmade] at ih
            exact ih
          · rename_i hmade
            rw [hmade] at ih
            split
            · exact ih.trans (extended_makeDirectory ‹_›)
            · rw [snd_settle]
              exact ih
        · rw [snd_settle]
          exact .refl disk

/-- A directory that is made stands where its path leads. -/
theorem alikeAt_makeDirectory (h : disk.makeDirectory here path now = .ok disk') {p : Place}
    (hp : p ≠ spot here path) : AlikeAt disk disk' p := by
  obtain ⟨place, hplace, h⟩ := bind_eq_ok h
  cases place with
  | none => cases h
  | some place =>
      obtain ⟨rfl, parent, name, hspot, -, hparent⟩ := place?_eq_ok hplace
      dsimp only at h
      split at h
      · cases h
      · cases h
        rw [hspot] at hp ⊢
        exact (node?_add hparent name (.directory now)).2 p hp

/-- Directories that are made stand where their paths lead, whether or not all can be made. -/
theorem alikeAt_makeAll (disk : Disk) (now : Timestamp) {paths : List Path} {p : Place}
    (hp : ∀ path ∈ paths, p ≠ spot here path) :
    AlikeAt disk (makeAll here now paths disk).2 p := by
  induction paths with
  | nil => exact .refl disk p
  | cons path above ih =>
      have hpath := hp path List.mem_cons_self
      have ih := ih fun q hq => hp q (List.mem_cons_of_mem path hq)
      rw [makeAll]
      split
      · exact .refl disk p
      · split
        · exact alikeAt_makeDirectory ‹_› hpath
        · split
          · rename_i hmade
            rw [hmade] at ih
            exact ih
          · rename_i hmade
            rw [hmade] at ih
            split
            · exact ih.trans (alikeAt_makeDirectory ‹_› hpath)
            · rw [snd_settle]
              exact ih
        · rw [snd_settle]
          exact .refl disk p

/-- Making directories only adds directories, whether or not it succeeds. -/
theorem extended_makeDirectories (disk : Disk) (here : Place) (path : Path) (now : Timestamp) :
    Extended disk (disk.makeDirectories here path now).2 :=
  extended_makeAll disk here now path.ancestors

/-- Where a path leads somewhere, its place for a new entry is taken. -/
theorem place?_of_find {node : Node} (h : disk.find here path = .ok (place, node)) :
    ∃ found, disk.place? here path = .ok found ∧ ∀ p, found = some p → p = place := by
  obtain ⟨hstart, hway, rfl, -⟩ := find_eq_ok_iff.mp h
  obtain ⟨found, hfound⟩ : ∃ found, disk.place? here path = .ok found := by
    cases hstarted : start here path with
    | error e =>
        rw [hstarted] at hstart
        cases hstart
    | ok value =>
        obtain ⟨first, pieces⟩ := value
        obtain ⟨tail, hpieces, -⟩ := Text.dropTail_append List.isEmpty pieces
        rw [way, hstarted] at hway
        dsimp only at hway
        rw [hpieces, trail_append] at hway
        simp only [place?, hstarted, bind, Except.bind]
        split
        · exact ⟨none, rfl⟩
        · rename_i last front hlast
          rw [List.reverse_eq_cons_iff.mp hlast, trail_append, List.forall_mem_append,
            List.forall_mem_append] at hway
          obtain ⟨⟨hfront, hparent⟩, -⟩ := hway
          have hstep : disk.step (front.reverse.foldl move first) last = .ok _ :=
            step_eq_ok_iff.mpr ⟨hparent _ List.mem_cons_self, rfl⟩
          rw [foldlM_step_eq_ok_iff.mpr ⟨hfront, rfl⟩]
          dsimp only
          rw [hstep]
          exact ⟨_, rfl⟩
  refine ⟨found, hfound, fun p hp => ?_⟩
  rw [hp] at hfound
  exact (place?_eq_ok hfound).1

/-- Making the directories of a path that leads to one changes nothing. -/
theorem makeDirectories_of_find {time : Timestamp}
    (h : disk.find here path = .ok (place, .directory time)) (now : Timestamp) :
    disk.makeDirectories here path now = (.ok (), disk) := by
  have hdirectory : disk.isDirectory here path = true := by simp [isDirectory, h, Node.isDirectory]
  have hmake : disk.makeDirectory here path now = .error .alreadyExists := by
    obtain ⟨found, hfound, hplace⟩ := place?_of_find h
    rw [makeDirectory, hfound]
    cases found with
    | none => rfl
    | some p =>
        obtain rfl := hplace p rfl
        have hsome : (disk.node? p).isSome := by simp [(find_eq_ok h).2]
        change (if (disk.node? p).isSome then _ else _) = _
        rw [if_pos hsome]
        rfl
  rw [makeDirectories, Path.ancestors, Path.ancestors.climb, makeAll, hmake]
  split
  · rfl
  · dsimp only
    rw [settle, if_pos hdirectory]

/-- Removing prunes what the path leads to, unless that is the root. -/
theorem pruned_remove (hsound : disk.Sound) (h : disk.remove here path now = .ok disk')
    (hne : spot here path ≠ []) : Pruned disk disk' (spot here path) := by
  obtain ⟨⟨place, node⟩, hfind, h⟩ := bind_eq_ok h
  obtain ⟨rfl, hnode⟩ := find_eq_ok hfind
  cases h
  obtain ⟨parent, name, hspot⟩ : ∃ parent name, spot here path = parent ++ [name] :=
    ⟨_, _, (List.dropLast_concat_getLast hne).symm⟩
  rw [hspot] at hnode ⊢
  have hparent : disk.IsDirectory parent := hsound.inside parent name (by rw [hnode]; rfl)
  have hothers : ∀ p, ¬parent ++ [name] <+: p →
      AlikeAt disk (disk.drop (parent ++ [name]) now) p := by
    intro p hp
    by_cases hnil : p = []
    · rw [hnil]
      exact .inl rfl
    · have hdrop := node?_drop disk (parent ++ [name]) now hnil
      rw [if_neg hp, List.dropLast_concat] at hdrop
      split at hdrop
      · rename_i hp'
        subst hp'
        obtain ⟨time, htime⟩ := hparent
        rw [htime] at hdrop
        exact .inr ⟨⟨time, htime⟩, now, hdrop⟩
      · exact .inl hdrop
  have hbelow : ∀ p, parent ++ [name] <+: p →
      (disk.drop (parent ++ [name]) now).node? p = none := by
    intro p hp
    have hnil : p ≠ [] := by
      rintro rfl
      simp at hp
    rw [node?_drop disk _ now hnil, if_pos hp]
  have hkept : ∀ {p}, ((disk.drop (parent ++ [name]) now).node? p).isSome →
      ¬parent ++ [name] <+: p := by
    intro p hp hunder
    rw [hbelow p hunder] at hp
    cases hp
  refine ⟨hbelow, hothers, fun _ => ⟨?_, ?_⟩⟩
  · intro p other hother
    exact hsound.named p other ((hothers _ (hkept hother)).isSome_iff.mp hother)
  · intro p other hother
    have hout := hkept hother
    have hp : ¬parent ++ [name] <+: p := fun hunder =>
      hout (hunder.trans (List.prefix_append _ _))
    exact (hothers p hp).isDirectory_iff.mpr
      (hsound.inside p other ((hothers _ hout).isSome_iff.mp hother))

end Changes

section Contents

variable {disk disk' : Disk} {here : Place} {path : Path} {place p : Place} {content : Content}
  {now : Timestamp}

/-- What the file at a place holds, if there is one. -/
def contentAt (disk : Disk) (place : Place) : Option Content :=
  (disk.node? place).bind Node.content?

theorem contentAt_eq_map (disk : Disk) (p : Place) :
    disk.contentAt p = (disk.fileAt p).map (·.1) := by
  rw [contentAt, fileAt]
  cases disk.node? p with
  | none => rfl
  | some node => exact node.content?_eq_map

@[simp] theorem contentAt_nil (disk : Disk) : disk.contentAt [] = none := rfl

/-- Writing a file changes what the file at the spot of its path holds, and nothing else. -/
theorem contentAt_writeFile (h : disk.writeFile here path content now = .ok disk') (p : Place) :
    disk'.contentAt p = if p = spot here path then some content else disk.contentAt p := by
  have hwritten := rewritten_writeFile h
  split
  · rename_i hp
    obtain ⟨time, hnode⟩ := hwritten.node
    rw [hp, contentAt, hnode]
    rfl
  · rw [contentAt_eq_map, contentAt_eq_map, (hwritten.others p ‹_›).fileAt_eq]

/-- Making directories changes no file. -/
theorem contentAt_makeDirectories (disk : Disk) (here : Place) (path : Path) (now : Timestamp)
    (p : Place) : (disk.makeDirectories here path now).2.contentAt p = disk.contentAt p := by
  rw [contentAt_eq_map, contentAt_eq_map,
    ((extended_makeDirectories disk here path now).nodes p).fileAt_eq]

/-- Removing leaves only contents that were there. -/
theorem contentAt_of_remove (h : disk.remove here path now = .ok disk')
    (hp : disk'.contentAt p = some content) : disk.contentAt p = some content := by
  obtain ⟨⟨place, node⟩, -, h⟩ := bind_eq_ok h
  cases h
  by_cases hnil : p = []
  · rw [hnil] at hp
    cases hp
  · rw [contentAt, node?_drop disk place now hnil] at hp
    rw [contentAt]
    split at hp
    · cases hp
    · split at hp
      · cases hnode : disk.node? p with
        | none =>
            rw [hnode] at hp
            cases hp
        | some node =>
            rw [hnode] at hp
            simpa using hp
      · exact hp

/-- What is read through a path is what the file at its spot holds. -/
theorem contentAt_of_readText {text : String} (h : disk.readText here path = .ok text) :
    disk.contentAt (spot here path) = some (.text text) := by
  obtain ⟨content, hcontent, h⟩ := bind_eq_ok h
  obtain ⟨⟨place, node⟩, hfind, hnode⟩ := bind_eq_ok hcontent
  obtain ⟨rfl, hplace⟩ := find_eq_ok hfind
  cases node with
  | directory time => cases hnode
  | file held time =>
      cases hnode
      cases content with
      | bytes bytes => cases h
      | text held =>
          cases h
          rw [contentAt, hplace]
          rfl

/-- What is read through a path depends on what is at the place to which the path leads. -/
theorem readText_congr {here' : Place} (h : disk.locate here path = .ok p)
    (h' : disk'.locate here' path = .ok p) (hnode : disk'.node? p = disk.node? p) :
    disk'.readText here' path = disk.readText here path := by
  rw [readText, readText, Disk.content, Disk.content, find, find, h, h']
  dsimp only [bind, Except.bind]
  rw [hnode]

end Contents

end Disk
end ComponentCompiler
