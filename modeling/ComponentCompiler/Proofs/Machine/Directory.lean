import ComponentCompiler.Proofs.Machine.Host

/-!
# What is in a directory

Removing entries of a directory leaves everything outside it as it was (`Thinned`), and the path of
the directory still leads to it, unless that path runs through the directory itself (`Reached`).
-/

namespace ComponentCompiler

open ComponentCompiler.Path Text

namespace Disk

section Places

variable {place p : Place}

/-- A place is inside the directory at another place. -/
def Below (place p : Place) : Prop := ∃ name rest, p = place ++ name :: rest

theorem below_iff : Below place p ↔ place <+: p ∧ p ≠ place := by
  constructor
  · rintro ⟨name, rest, rfl⟩
    exact ⟨List.prefix_append _ _, by simp⟩
  · rintro ⟨⟨rest, rfl⟩, hne⟩
    cases rest with
    | nil => simp at hne
    | cons name rest => exact ⟨name, rest, rfl⟩

instance (place p : Place) : Decidable (Below place p) := decidable_of_iff _ below_iff.symm

theorem not_below_self (place : Place) : ¬Below place place := fun h => (below_iff.mp h).2 rfl

theorem below_append {names : List String} (h : names ≠ []) (place : Place) :
    Below place (place ++ names) := by
  obtain ⟨name, rest, rfl⟩ := List.exists_cons_of_ne_nil h
  exact ⟨name, rest, rfl⟩

/-- Nothing is inside a directory if no entry of the list of nodes is. -/
theorem node?_eq_none_of_entries {disk : Disk} (h : ∀ entry ∈ disk.nodes, ¬Below place entry.1)
    (hp : Below place p) : disk.node? p = none := by
  have hne : p ≠ [] := by
    obtain ⟨name, rest, rfl⟩ := hp
    simp
  rw [node?_of_ne_nil _ hne, Option.map_eq_none_iff, List.find?_eq_none]
  intro entry hentry hplace
  have heq : entry.1 = p := by simpa using hplace
  exact h entry hentry (heq ▸ hp)

end Places

section Thinned

variable {disk before middle after : Disk} {place p rest : Place} {name : String}

/-- Above every node of a sound disk there are nodes. -/
theorem Sound.above (hsound : disk.Sound) (h : (disk.node? (p ++ rest)).isSome) :
    (disk.node? p).isSome := by
  induction rest generalizing p with
  | nil => simpa using h
  | cons name rest ih =>
    have hentry : (disk.node? (p ++ [name])).isSome := ih (by simpa using h)
    obtain ⟨time, hdirectory⟩ := hsound.inside p name hentry
    rw [hdirectory]
    rfl

/-- Some of what was inside a directory is gone, and everything else is as it was. -/
structure Thinned (before after : Disk) (place : Place) : Prop where
  nodes : ∀ p, AlikeAt before after p ∨ Below place p ∧ after.node? p = none
  sound : before.Sound → after.Sound

theorem Thinned.refl (disk : Disk) (place : Place) : Thinned disk disk place :=
  ⟨fun p => .inl (.refl disk p), id⟩

theorem Thinned.isSome (h : Thinned before after place) (hp : (after.node? p).isSome) :
    (before.node? p).isSome := by
  rcases h.nodes p with halike | ⟨-, hgone⟩
  · exact halike.isSome_iff.mp hp
  · rw [hgone] at hp
    cases hp

theorem Thinned.gone (h : Thinned before after place) (hp : before.node? p = none) :
    after.node? p = none := by
  rcases h.nodes p with halike | ⟨-, hgone⟩
  · have hsome := halike.isSome_iff
    rw [hp] at hsome
    simpa using hsome
  · exact hgone

theorem Thinned.trans (h : Thinned before middle place) (h' : Thinned middle after place) :
    Thinned before after place := by
  refine ⟨fun p => ?_, fun hsound => h'.sound (h.sound hsound)⟩
  rcases h'.nodes p with halike' | hgone'
  · rcases h.nodes p with halike | ⟨hbelow, hgone⟩
    · exact .inl (halike.trans halike')
    · exact .inr ⟨hbelow, h'.gone hgone⟩
  · exact .inr hgone'

theorem Pruned.thinned (h : Pruned before after (place ++ [name])) :
    Thinned before after place := by
  refine ⟨fun p => ?_, h.sound⟩
  by_cases hunder : place ++ [name] <+: p
  · obtain ⟨rest, rfl⟩ := id hunder
    exact .inr ⟨⟨name, rest, by simp⟩, h.below _ hunder⟩
  · exact .inl (h.others p hunder)

theorem Thinned.isDirectory (h : Thinned before after place) (hp : ¬Below place p)
    (hdirectory : before.IsDirectory p) : after.IsDirectory p := by
  rcases h.nodes p with halike | ⟨hbelow, -⟩
  · exact halike.isDirectory_iff.mpr hdirectory
  · exact absurd hbelow hp

theorem Thinned.contentAt (h : Thinned before after place) {content : Content}
    (hp : after.contentAt p = some content) : before.contentAt p = some content := by
  rcases h.nodes p with halike | ⟨-, hgone⟩
  · rw [contentAt_eq_map, ← halike.fileAt_eq, ← contentAt_eq_map]
    exact hp
  · rw [Disk.contentAt, hgone] at hp
    cases hp

theorem GrownAt.contentAt_eq (h : GrownAt before after p) :
    after.contentAt p = before.contentAt p := by
  rw [contentAt_eq_map, contentAt_eq_map, h.fileAt_eq]

end Thinned

section Reached

variable {disk before after : Disk} {here place : Place} {directory path : Path} {node : Node}
  {name : String}

/-- A path leads to a directory. The empty path does so where the working place is one, though only
what is joined to it can be found. -/
structure Leads (disk : Disk) (here : Place) (directory : Path) : Prop where
  clean : '\x00' ∉ directory.text.toList
  way : ∀ q ∈ way here directory, disk.IsDirectory q
  directory : disk.IsDirectory (spot here directory)

/-- A path leads to a directory and does not run through what is in it. -/
structure Reached (disk : Disk) (here : Place) (directory : Path) : Prop where
  leads : Leads disk here directory
  straight : ∀ q ∈ way here directory, ¬Below (spot here directory) q

/-- A directory is still reached if nothing outside it stopped being a directory. -/
theorem Reached.keep (h : Reached before here directory)
    (hkeep : ∀ q, ¬Below (spot here directory) q → before.IsDirectory q → after.IsDirectory q) :
    Reached after here directory where
  leads := {
    clean := h.leads.clean
    way := fun q hq => hkeep q (h.straight q hq) (h.leads.way q hq)
    directory := hkeep _ (not_below_self _) h.leads.directory }
  straight := h.straight

/-- A path that leads to an empty directory does not run through what is in it. -/
theorem Leads.reached (h : Leads disk here directory)
    (hempty : ∀ p, Below (spot here directory) p → disk.node? p = none) :
    Reached disk here directory := by
  refine ⟨h, fun q hq hbelow => ?_⟩
  obtain ⟨time, hdirectory⟩ := h.way q hq
  rw [hempty q hbelow] at hdirectory
  cases hdirectory

theorem Leads.find (h : Leads disk here directory) (hne : directory.text ≠ "") :
    ∃ time, disk.find here directory = .ok (spot here directory, .directory time) := by
  obtain ⟨time, hnode⟩ := h.directory
  refine ⟨time, find_eq_ok_iff.mpr ⟨?_, h.way, rfl, hnode⟩⟩
  have hne' : directory.text.toList ≠ [] := by simpa using hne
  cases habsolute : directory.isAbsolute with
  | true => rw [start_eq_ok_iff.mpr ⟨hne', h.clean, .inl ⟨habsolute, rfl, rfl⟩⟩]; rfl
  | false => rw [start_eq_ok_iff.mpr ⟨hne', h.clean, .inr ⟨habsolute, rfl, rfl⟩⟩]; rfl

theorem leads_of_find {time : Timestamp}
    (h : disk.find here directory = .ok (place, .directory time)) :
    Leads disk here directory := by
  obtain ⟨hstart, hway, rfl, hnode⟩ := find_eq_ok_iff.mp h
  refine ⟨?_, hway, time, hnode⟩
  cases hstarted : start here directory with
  | error e =>
    rw [hstarted] at hstart
    cases hstart
  | ok value => exact (start_eq_ok_iff.mp hstarted).2.1

/-- In a directory that a path leads to, a name after the path leads to the entry. -/
theorem Leads.find_join (h : Leads disk here directory) (hname : IsName name) :
    disk.find here (directory.join ⟨name⟩) =
      match disk.node? (spot here directory ++ [name]) with
      | some node => .ok (spot here directory ++ [name], node)
      | none => .error .notFound := by
  by_cases hne : directory.text = ""
  · obtain ⟨hloud, -, hslash, hnull⟩ := id hname
    have hnonempty : name.toList ≠ [] := by
      intro hnil
      simp [hnil, isSilent] at hloud
    have hjoin : directory.join ⟨name⟩ = ⟨name⟩ := by simp [join, hne]
    have hspot : spot here directory = here := by
      simp [spot, isAbsolute, hne, Text.pieces, move, isSilent]
    have hdirectory := h.directory
    have hstart : start here ⟨name⟩ = .ok (here, [] ++ [name.toList]) := by
      refine start_eq_ok_iff.mpr ⟨hnonempty, hnull, .inr ⟨isAbsolute_of_not_mem hslash, rfl, ?_⟩⟩
      rw [pieces_of_not_mem hslash]
      rfl
    rw [hspot] at hdirectory ⊢
    rw [hjoin]
    exact find_of_start hname hstart (List.forall_mem_nil _) hdirectory
  · obtain ⟨time, hfind⟩ := h.find hne
    exact Disk.find_join hfind hname

/-- What is outside a directory still leads to it when it is thinned out. -/
theorem Thinned.find {time : Timestamp} (h : Thinned before after (spot here directory))
    (hfind : before.find here directory = .ok (spot here directory, .directory time))
    (hstraight : ∀ q ∈ way here directory, ¬Below (spot here directory) q) :
    ∃ time, after.find here directory = .ok (spot here directory, .directory time) := by
  obtain ⟨time', hnode⟩ := h.isDirectory (not_below_self _) ⟨time, (find_eq_ok hfind).2⟩
  exact ⟨time', find_of_way hfind (fun q hq => h.isDirectory (hstraight q hq)) hnode⟩

/-- Where a piece after a path leads somewhere, the path leads to a directory. -/
theorem find_of_find_join (hne : directory.text ≠ "") (hslash : '/' ∉ name.toList)
    (h : disk.find here (directory.join ⟨name⟩) = .ok (place, node)) :
    ∃ time, disk.find here directory = .ok (spot here directory, .directory time) := by
  obtain ⟨hstart, hway, -, -⟩ := find_eq_ok_iff.mp h
  have hne' : directory.text.toList ≠ [] := by simpa using hne
  have hrelative : (⟨name⟩ : Path).isAbsolute = false := isAbsolute_of_not_mem hslash
  have hclean : '\x00' ∉ directory.text.toList ∧ '\x00' ∉ name.toList := by
    obtain ⟨front, hfront, hjoin⟩ := join_of_relative hrelative hne'
    cases hjoined : start here (directory.join ⟨name⟩) with
    | error e =>
      rw [hjoined] at hstart
      cases hstart
    | ok value =>
      have hclean := (start_eq_ok_iff.mp hjoined).2.1
      rw [hjoin] at hclean
      rcases hfront with hfront | hfront <;> rw [hfront] <;> simp_all
  obtain ⟨first, pieces, hstarted⟩ :
      ∃ first pieces, start here directory = .ok (first, pieces) := by
    by_cases habsolute : directory.isAbsolute
    · exact ⟨_, _, start_eq_ok_iff.mpr ⟨hne', hclean.1, .inl ⟨habsolute, rfl, rfl⟩⟩⟩
    · exact ⟨_, _, start_eq_ok_iff.mpr
        ⟨hne', hclean.1, .inr ⟨by simpa using habsolute, rfl, rfl⟩⟩⟩
  obtain ⟨front, hfront, hjoin⟩ := start_join hstarted hrelative hclean.2
  rw [pieces_of_not_mem hslash] at hjoin
  have hlast : front.foldl move first = spot here directory := by
    rw [← start_eq_ok hstarted]
    rcases hfront with rfl | rfl
    · rfl
    · rw [List.foldl_append]
      rfl
  rw [way, hjoin] at hway
  dsimp only at hway
  rw [trail_append, List.forall_mem_append, hlast] at hway
  obtain ⟨hfrontWay, hspot⟩ := hway
  obtain ⟨time, hnode⟩ := hspot (spot here directory) List.mem_cons_self
  refine ⟨time, find_eq_ok_iff.mpr ⟨by rw [hstarted]; rfl, ?_, rfl, hnode⟩⟩
  rw [way, hstarted]
  dsimp only
  rcases hfront with rfl | rfl
  · exact hfrontWay
  · rw [trail_append, List.forall_mem_append, hlast]
    refine ⟨hfrontWay, fun q hq => ?_⟩
    obtain rfl := List.mem_singleton.mp hq
    exact ⟨time, hnode⟩

end Reached

end Disk

namespace Host

open Disk

variable {σ : Type} [Files (StateM σ)] [Journal (StateM σ)] [Host σ]
variable {s before middle after : σ} {place : Place} {path directory : Path} {text : String}

/-- Some of what was inside a directory is gone. -/
structure Thins (before after : σ) (place : Place) : Prop where
  disk : Thinned (disk before) (disk after) place
  here : here after = here before

theorem Same.thins (h : Same before after) (place : Place) : Thins before after place :=
  ⟨h.disk ▸ .refl _ place, h.here⟩

theorem Thins.trans (h : Thins before middle place) (h' : Thins middle after place) :
    Thins before after place :=
  ⟨h.disk.trans h'.disk, h'.here.trans h.here⟩

/-- Making a directory that is there changes nothing. -/
theorem same_makeDirectories {time : Timestamp}
    (h : (disk s).find (here s) path = .ok (place, .directory time)) :
    Same s (run s (Files.makeDirectories path)).2 := by
  refine ⟨?_, here_makeDirectories s path⟩
  have htried := makeDirectories_tried s path
  rw [run]
  generalize ((Files.makeDirectories path : StateM σ _) s).1 = result at htried
  generalize disk ((Files.makeDirectories path : StateM σ _) s).2 = after at htried
  cases htried with
  | happened now => rw [makeDirectories_of_find h]
  | failed e => rfl
  | brokeOff e h => exact absurd h.1 whole

end Host
end ComponentCompiler
