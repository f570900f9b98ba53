import ComponentCompiler.Proofs.Cache.Effects
import ComponentCompiler.Proofs.Machine.Directory

/-!
# What was written is there

A file that was written is found by its path (`find_of_writeFile`). What has a time elsewhere keeps
it, unless it is the directory that the file stands in (`timeOf_writeText`).
-/

namespace ComponentCompiler

open ComponentCompiler.Path

namespace Disk

variable {disk disk' : Disk} {here place p : Place} {path : Path} {content : Content}
  {now : Timestamp} {node : Node}

/-- A path that does not end in a slash leads to its place for a new entry by directories. -/
theorem way_of_place? (h : disk.place? here path = .ok (some place))
    (hslash : path.text.toList.getLast? ≠ some '/') :
    ∀ q ∈ way here path, disk.IsDirectory q := by
  obtain ⟨⟨first, pieces⟩, hstart, h⟩ := bind_eq_ok h
  dsimp only at h
  obtain ⟨tail, hpieces, htail⟩ := Text.dropTail_append List.isEmpty pieces
  have hnone : tail = [] := by
    -- An empty last piece would be due to a slash at the end of the text.
    refine Decidable.byContradiction fun hne => ?_
    have hempty : tail.getLast hne = [] := by simpa using htail _ (List.getLast_mem hne)
    have hlast : pieces.getLast? = some [] := by
      rw [hpieces, List.getLast?_append, List.getLast?_eq_some_getLast hne, hempty]
      rfl
    obtain ⟨htext, -, hkind⟩ := start_eq_ok_iff.mp hstart
    have hpath : (Text.pieces '/' path.text.toList).getLast? = some [] := by
      rcases hkind with ⟨-, -, rfl⟩ | ⟨-, -, rfl⟩
      · rw [List.getLast?_tail] at hlast
        split at hlast
        · cases hlast
        · exact hlast
      · exact hlast
    rcases Text.of_getLast?_pieces hpath with htext' | hslash'
    · exact htext htext'
    · exact hslash hslash'
  rw [hnone, List.append_nil] at hpieces
  rw [way, hstart]
  split at h
  · cases h
  · rename_i last front hlast
    rw [List.reverse_eq_cons_iff] at hlast
    obtain ⟨parent, hfront, h⟩ := bind_eq_ok h
    obtain ⟨next, hstep, -⟩ := bind_eq_ok h
    obtain ⟨htrail, rfl⟩ := foldlM_step_eq_ok_iff.mp hfront
    obtain ⟨hparent, -⟩ := step_eq_ok_iff.mp hstep
    dsimp only
    rw [hpieces, hlast, trail_append, List.forall_mem_append]
    refine ⟨htrail, fun q hq => ?_⟩
    obtain rfl := List.mem_singleton.mp hq
    exact hparent

/-- A file that was written is found by its path. -/
theorem find_of_writeFile (h : disk.writeFile here path content now = .ok disk') :
    disk'.find here path = .ok (spot here path, .file content now) := by
  have hrewritten := rewritten_writeFile h
  obtain ⟨parent, name, hspot, -, -, -, hnode, -⟩ := of_writeFile h
  rw [← hspot] at hnode
  obtain ⟨found, hfound, h⟩ := bind_eq_ok h
  cases found with
  | none => cases h
  | some found =>
    dsimp only at h
    split at h
    · cases h
    · rename_i hslash
      obtain ⟨⟨first, pieces⟩, hstart, -⟩ := bind_eq_ok hfound
      refine find_eq_ok_iff.mpr ⟨by rw [hstart]; rfl, fun q hq => ?_, rfl, hnode⟩
      exact hrewritten.isDirectory (way_of_place? hfound hslash q hq)

/-- Writing a file changes nothing but the file and the directory that it stands in. -/
theorem node?_writeFile (h : disk.writeFile here path content now = .ok disk')
    (hp : p ≠ spot here path) (hp' : p ≠ (spot here path).dropLast) :
    disk'.node? p = disk.node? p := by
  obtain ⟨place, hplace, h⟩ := bind_eq_ok h
  cases place with
  | none => cases h
  | some place =>
    obtain ⟨rfl, parent, name, hspot, -, hparent⟩ := place?_eq_ok hplace
    have hne : spot here path ≠ [] := by simp [hspot]
    dsimp only at h
    split at h
    · cases h
    · split at h
      · cases h
      · cases h
        rw [node?_put disk hne, if_neg hp]
      · cases h
        rw [add, node?_touch, if_neg fun heq => hp' heq.1, node?_put disk hne, if_neg hp]

/-- A path that leads somewhere leads there on every disk with the same directories and the same
node there. -/
theorem find_congr (hdirectories : ∀ q, disk'.IsDirectory q ↔ disk.IsDirectory q)
    (hnode : disk'.node? (spot here path) = disk.node? (spot here path)) :
    (disk'.find here path).toOption = (disk.find here path).toOption := by
  refine toOption_congr fun ⟨place, node⟩ => ?_
  rw [find_eq_ok_iff, find_eq_ok_iff]
  simp only [hdirectories]
  refine and_congr_right fun _ => and_congr_right fun _ => and_congr_right fun hplace => ?_
  rw [hplace, hnode]

end Disk

namespace Host

open Disk

variable {σ : Type} [Files (StateM σ)] [Journal (StateM σ)] [FragileHost σ]
variable {s : σ} {path other : Path} {text : String}

theorem writeFile_of_writeText (hok : (run s (Files.writeText path text)).1.isOk) :
    ∃ now, (disk s).writeFile (here s) path (.text text) now =
      .ok (disk (run s (Files.writeText path text)).2) := by
  rcases writeText_cases s path text with ⟨-, hwritten⟩ | ⟨herror, -⟩
  · exact hwritten
  · rw [hok] at herror
    cases herror

theorem here_run_writeText (s : σ) (path : Path) (text : String) :
    here (run s (Files.writeText path text)).2 = here s := here_writeText s path text

/-- A text that was written is found. -/
theorem find_writeText (hok : (run s (Files.writeText path text)).1.isOk) :
    ∃ now, (disk (run s (Files.writeText path text)).2).find
        (here (run s (Files.writeText path text)).2) path =
      .ok (spot (here s) path, .file (.text text) now) := by
  obtain ⟨now, hwrite⟩ := writeFile_of_writeText hok
  rw [here_run_writeText]
  exact ⟨now, find_of_writeFile hwrite⟩

theorem readText_of_find {now : Timestamp} {place : Place}
    (h : (disk s).find (here s) path = .ok (place, .file (.text text) now)) :
    (disk s).readText (here s) path = .ok text := by
  rw [readText, content, h]
  rfl

/-- What is neither the file that was written nor its directory has the time that it had. -/
theorem timeOf_writeText (hok : (run s (Files.writeText path text)).1.isOk)
    (hother : spot (here s) other ≠ spot (here s) path)
    (hother' : spot (here s) other ≠ (spot (here s) path).dropLast) :
    timeOf (run s (Files.writeText path text)).2 other = timeOf s other := by
  obtain ⟨now, hwrite⟩ := writeFile_of_writeText hok
  have hdirectories : ∀ q, (disk (run s (Files.writeText path text)).2).IsDirectory q ↔
      (disk s).IsDirectory q := by
    intro q
    by_cases hq : q = spot (here s) path
    · obtain ⟨time, hnode⟩ := (rewritten_writeFile hwrite).node
      refine iff_of_false ?_ (hq ▸ (rewritten_writeFile hwrite).room)
      rintro ⟨time', hdirectory⟩
      rw [hq, hnode] at hdirectory
      cases hdirectory
    · exact (alikeAt_writeFile hwrite hq).isDirectory_iff
  rw [timeOf_eq, timeOf_eq, here_run_writeText,
    find_congr hdirectories (node?_writeFile hwrite hother hother')]

end Host
end ComponentCompiler
