import ComponentCompiler.Proofs.Cache.Effects

/-!
# What files tell by their times

While directories stay directories and files stay files (`Carries`), a path that leads to a file
goes on leading to it. If every edit gives a file a time that it never had, then by its time a file
tells whether it still holds the same (`Tells`).
-/

namespace ComponentCompiler

open Disk

theorem Disk.fileAt_of_find {disk : Disk} {here place : Place} {path : Path} {content : Content}
    {time : Timestamp} (h : disk.find here path = .ok (place, .file content time)) :
    disk.fileAt place = some (content, time) := by
  obtain ⟨-, hnode⟩ := find_eq_ok h
  rw [fileAt, hnode]
  rfl

namespace Host

variable {σ : Type} [Files (StateM σ)] [Journal (StateM σ)] [FragileHost σ]
variable {s before middle after : σ} {place p : Place} {path : Path}

/-- Directories are still directories, and files are still files. -/
structure Carries (before after : σ) : Prop where
  directories : ∀ p, (disk before).IsDirectory p → (disk after).IsDirectory p
  files : ∀ p, ((disk before).fileAt p).isSome → ((disk after).fileAt p).isSome
  here : here after = here before

theorem Carries.refl (s : σ) : Carries s s := ⟨fun _ => id, fun _ => id, rfl⟩

theorem Carries.trans (h : Carries before middle) (h' : Carries middle after) :
    Carries before after where
  directories p hp := h'.directories p (h.directories p hp)
  files p hp := h'.files p (h.files p hp)
  here := h'.here.trans h.here

theorem Kept.carries (h : Kept before after) : Carries before after where
  directories p := (h.disk.nodes p).isDirectory
  files p hp := by rwa [(h.disk.nodes p).fileAt_eq]
  here := h.here

/-- A path that leads to a file still does so. -/
theorem Carries.find (h : Carries before after) {content : Content} {time : Timestamp}
    (hfind : (disk before).find (Host.here before) path = .ok (place, .file content time)) :
    ∃ content time, (disk after).find (Host.here after) path =
      .ok (place, .file content time) := by
  have hfile : ((disk before).fileAt place).isSome := by
    rw [fileAt_of_find hfind]
    rfl
  obtain ⟨held, hheld⟩ := Option.isSome_iff_exists.mp (h.files place hfile)
  refine ⟨held.1, held.2, ?_⟩
  rw [h.here]
  exact find_of_way hfind (fun q _ => h.directories q) (node?_of_fileAt hheld)

theorem timeOf_of_find {content : Content} {time : Timestamp}
    (h : (disk s).find (Host.here s) path = .ok (place, .file content time)) :
    timeOf s path = time.milliseconds? := by
  rw [timeOf_eq, h]
  rfl

/-- Where there is a file, a time is the time of the file. -/
theorem timeOf_of_fileAt {held : Content × Timestamp}
    (hfile : (disk s).fileAt (spot (Host.here s) path) = some held)
    (h : (timeOf s path).isSome) : timeOf s path = held.2.milliseconds? := by
  rw [timeOf_eq] at h ⊢
  cases hfind : (disk s).find (Host.here s) path with
  | error e =>
    rw [hfind] at h
    cases h
  | ok found =>
    obtain ⟨place, node⟩ := found
    obtain ⟨rfl, hnode⟩ := find_eq_ok hfind
    rw [node?_of_fileAt hfile] at hnode
    cases hnode
    rfl

/-- What has a time but is no file is a directory. -/
theorem isDirectory_of_timeOf (hfile : (disk s).fileAt (spot (Host.here s) path) = none)
    (h : (timeOf s path).isSome) : (disk s).IsDirectory (spot (Host.here s) path) := by
  rw [timeOf_eq] at h
  cases hfind : (disk s).find (Host.here s) path with
  | error e =>
    rw [hfind] at h
    cases h
  | ok found =>
    obtain ⟨place, node⟩ := found
    cases node with
    | directory time =>
      obtain ⟨rfl, hnode⟩ := find_eq_ok hfind
      exact ⟨time, hnode⟩
    | file content time =>
      obtain ⟨rfl, -⟩ := find_eq_ok hfind
      rw [fileAt_of_find hfind] at hfile
      cases hfile

/-- What is read as a text is a file with that text. -/
theorem find_of_readText {text : String}
    (h : (disk s).readText (Host.here s) path = .ok text) :
    ∃ time, (disk s).find (Host.here s) path =
      .ok (spot (Host.here s) path, .file (.text text) time) := by
  obtain ⟨content, hcontent, h⟩ := bind_eq_ok h
  obtain ⟨⟨place, node⟩, hfind, hnode⟩ := bind_eq_ok hcontent
  obtain ⟨rfl, -⟩ := find_eq_ok hfind
  cases node with
  | directory time => cases hnode
  | file held time =>
    cases hnode
    cases content with
    | bytes bytes => cases h
    | text held =>
      cases h
      exact ⟨time, hfind⟩

/-- Two states tell the same of what a file holds if they tell the same of its time. -/
def Tells (s s' : σ) (p : Place) : Prop :=
  ∀ held held', (disk s).fileAt p = some held → (disk s').fileAt p = some held' →
    held.2.milliseconds? = held'.2.milliseconds? → held.1 = held'.1

theorem Tells.symm {s' : σ} (h : Tells s s' p) : Tells s' s p :=
  fun held held' hheld hheld' htime => (h held' held hheld' hheld htime.symm).symm

theorem Tells.of_eq {s' : σ} (h : Tells s before p)
    (hfile : (disk s').fileAt p = (disk before).fileAt p) : Tells s s' p := by
  intro held held' hheld hheld'
  rw [hfile] at hheld'
  exact h held held' hheld hheld'

theorem tells_self (s : σ) (p : Place) : Tells s s p := by
  intro held held' hheld hheld' _
  rw [hheld] at hheld'
  cases hheld'
  rfl

section Stores

variable {ε α : Type} {result : Except ε α} {text : String} {names other : List String}

theorem Stores.carries (h : Stores before place text result after) : Carries before after := by
  rcases h.extended_or_rewritten with hextended | ⟨content, hrewritten⟩
  · exact Kept.carries ⟨hextended, h.here⟩
  · refine ⟨fun p => hrewritten.isDirectory, fun p hp => ?_, h.here⟩
    by_cases hplace : p = place
    · obtain ⟨time, hnode⟩ := hrewritten.node
      rw [hplace, fileAt, hnode]
      rfl
    · rwa [(hrewritten.others p hplace).fileAt_eq]

theorem Stores.sound (h : Stores before place text result after) (hsound : (disk before).Sound) :
    (disk after).Sound := by
  rcases h.extended_or_rewritten with hextended | ⟨_, hrewritten⟩
  · exact hextended.sound hsound
  · exact hrewritten.sound hsound

/-- Elsewhere files are what they were. -/
theorem Stores.grownAt (h : Stores before place text result after) (hp : p ≠ place) :
    GrownAt (disk before) (disk after) p := by
  rcases h.extended_or_rewritten with hextended | ⟨_, hrewritten⟩
  · exact hextended.nodes p
  · exact hrewritten.others p hp

theorem Stores.fileAt_eq (h : Stores before place text result after) (hp : p ≠ place) :
    (disk after).fileAt p = (disk before).fileAt p := (h.grownAt hp).fileAt_eq

/-- A directory stays a directory. -/
theorem Stores.isDirectory (h : Stores before place text result after)
    (hp : (disk before).IsDirectory p) : (disk after).IsDirectory p := by
  rcases h.extended_or_rewritten with hextended | ⟨_, hrewritten⟩
  · exact (hextended.nodes p).isDirectory hp
  · exact hrewritten.isDirectory hp

theorem Stores.contentAt (h : Stores before place text result after) (hok : result.isOk) :
    (disk after).contentAt place = some (.text text) := by
  obtain ⟨time, hnode⟩ := (h.done hok).node
  rw [Disk.contentAt, hnode]
  rfl

end Stores

end Host
end ComponentCompiler
