import ComponentCompiler.Machine.Basic
import ComponentCompiler.Proofs.Machine.Paths

/-!
# Hosts

A host is a state with a disk on which programs run. Reading tells what is on the disk and changes
nothing. An operation that changes the disk happens as the disk has it at some moment, or it fails.
When it fails is up to the host, and so is what a failure leaves: on a `FragileHost` writing a file
may break off after some of its bytes, and making directories after some of them, while on a `Host`
what fails changes nothing. So what is shown of programs on any fragile host holds however writes
fail, and what is shown of programs on any host holds whenever operations fail, as long as each of
them is done as a whole or not at all. The machine is a host on which an operation fails only for a
reason on its disk.
-/

namespace ComponentCompiler

/-- What an operation that changes a disk may give: what it gives at some moment, a failure that
changes nothing, or a failure that leaves the operation done in part. -/
inductive Tried (disk : Disk) (operation : Timestamp → Except FileError Unit × Disk)
    (partly : Disk → Prop) : Except FileError Unit → Disk → Prop
  | happened (now : Timestamp) : Tried disk operation partly (operation now).1 (operation now).2
  | failed (e : FileError) : Tried disk operation partly (.error e) disk
  | brokeOff (e : FileError) {after : Disk} (h : partly after) :
      Tried disk operation partly (.error e) after

namespace Disk

/-- A change of a disk as an operation on it. -/
def changed (disk : Disk) : Except FileError Disk → Except FileError Unit × Disk
  | .ok after => (.ok (), after)
  | .error e => (.error e, disk)

/-- A file was to be written, and holds the first bytes of the text. -/
def BegunFile (disk : Disk) (here : Place) (path : Path) (text : String) (after : Disk) : Prop :=
  ∃ part now, part <+: text.toUTF8.toList ∧
    disk.writeFile here path (.ofBytes part) now = .ok after

/-- Directories were to be made, and only upper ones of them were. -/
def BegunDirectories (disk : Disk) (here : Place) (path : Path) (after : Disk) : Prop :=
  ∃ upper now, upper <:+ path.ancestors ∧ after = (makeAll here now upper disk).2

end Disk

/-- A state with a disk on which programs run. Whether operations that fail may break off is up to
it. -/
class FragileHost (σ : Type) [Files (StateM σ)] [Journal (StateM σ)] where
  disk : σ → Disk
  /-- The place that relative paths start from. -/
  here : σ → Place
  breaksOff (σ) : Prop
  readText_eq (s : σ) (path : Path) :
    (Files.readText path : StateM σ _) s = ((disk s).readText (here s) path, s)
  entries_eq (s : σ) (path : Path) :
    (Files.entries path : StateM σ _) s = ((disk s).entries (here s) path, s)
  pathExists_eq (s : σ) (path : Path) :
    (Files.pathExists path : StateM σ _) s = (((disk s).find (here s) path).isOk, s)
  modified_eq (s : σ) (path : Path) : (Files.modified path : StateM σ _) s =
    ((((disk s).find (here s) path).map fun found => found.2.modified).toOption, s)
  here_writeText (s : σ) (path : Path) (text : String) :
    here ((Files.writeText path text : StateM σ _) s).2 = here s
  writeText_tried (s : σ) (path : Path) (text : String) :
    Tried (disk s)
      (fun now => (disk s).changed ((disk s).writeFile (here s) path (.text text) now))
      (fun after => breaksOff ∧ (disk s).BegunFile (here s) path text after)
      ((Files.writeText path text : StateM σ _) s).1
      (disk ((Files.writeText path text : StateM σ _) s).2)
  here_makeDirectories (s : σ) (path : Path) :
    here ((Files.makeDirectories path : StateM σ _) s).2 = here s
  makeDirectories_tried (s : σ) (path : Path) :
    Tried (disk s) ((disk s).makeDirectories (here s) path)
      (fun after => breaksOff ∧ (disk s).BegunDirectories (here s) path after)
      ((Files.makeDirectories path : StateM σ _) s).1
      (disk ((Files.makeDirectories path : StateM σ _) s).2)
  record_keeps (s : σ) (event : Event) :
    disk ((Journal.record event : StateM σ _) s).2 = disk s ∧
      here ((Journal.record event : StateM σ _) s).2 = here s

/-- A state with a disk on which programs run, and on which operations that fail change nothing. -/
class Host (σ : Type) [Files (StateM σ)] [Journal (StateM σ)] extends FragileHost σ where
  whole : ¬breaksOff
  here_remove (s : σ) (path : Path) : here ((Files.remove path : StateM σ _) s).2 = here s
  remove_tried (s : σ) (path : Path) :
    Tried (disk s) (fun now => (disk s).changed ((disk s).remove (here s) path now))
      (fun _ => False) ((Files.remove path : StateM σ _) s).1
      (disk ((Files.remove path : StateM σ _) s).2)

namespace Host

export FragileHost (disk here breaksOff readText_eq entries_eq pathExists_eq modified_eq
  here_writeText writeText_tried here_makeDirectories makeDirectories_tried record_keeps)

end Host

namespace Machine

theorem tried_change (machine : Machine) {operation : Timestamp → Except FileError Disk}
    {partly : Disk → Prop} :
    Tried machine.disk (fun now => machine.disk.changed (operation now)) partly
      (machine.change (operation machine.now)).1
      (machine.change (operation machine.now)).2.disk := by
  have htried : Tried machine.disk (fun now => machine.disk.changed (operation now)) partly
      (machine.disk.changed (operation machine.now)).1
      (machine.disk.changed (operation machine.now)).2 := .happened machine.now
  cases hresult : operation machine.now <;>
    simpa [change, withDisk, Disk.changed, hresult] using htried

theorem here_change (machine : Machine) (result : Except FileError Disk) :
    (machine.change result).2.here = machine.here := by
  cases result <;> rfl

instance : Host Machine where
  disk := Machine.disk
  here := Machine.here
  breaksOff := False
  whole := not_false
  readText_eq _ _ := rfl
  entries_eq _ _ := rfl
  pathExists_eq _ _ := rfl
  modified_eq _ _ := rfl
  here_writeText machine _ _ := machine.here_change _
  writeText_tried machine _ _ := machine.tried_change
  here_makeDirectories _ _ := rfl
  makeDirectories_tried machine _ := .happened machine.now
  here_remove machine _ := machine.here_change _
  remove_tried machine _ := machine.tried_change
  record_keeps machine event := by
    change (if event.level.shownAt machine.shown then _ else machine : Machine).disk = _ ∧
      (if event.level.shownAt machine.shown then _ else machine : Machine).here = _
    split <;> exact ⟨rfl, rfl⟩

end Machine

namespace Host

open Disk

variable {σ α β : Type}

/-- Runs a program. -/
def run (s : σ) (program : StateM σ α) : α × σ := program s

theorem run_pure (s : σ) (a : α) : run s (pure a) = (a, s) := rfl

theorem run_bind (s : σ) (x : StateM σ α) (f : α → StateM σ β) :
    run s (x >>= f) = run (run s x).2 (f (run s x).1) := rfl

/-- A step that may fail is followed by the next one if it does not. -/
theorem run_bind_of_ok {ε : Type} {x : ExceptT ε (StateM σ) α} {f : α → ExceptT ε (StateM σ) β}
    {s : σ} {a : α} (h : (run s x.run).1 = .ok a) :
    run s (x >>= f).run = run (run s x.run).2 (f a).run := by
  rw [ExceptT.run_bind, run_bind, h]

/-- If a program that was put together returns a value, its first part does, and the rest does from
the state after it. -/
theorem ok_of_bind {ε : Type} {x : ExceptT ε (StateM σ) α} {f : α → ExceptT ε (StateM σ) β} {s : σ}
    {b : β} (h : (run s (x >>= f).run).1 = .ok b) :
    ∃ a, (run s x.run).1 = .ok a ∧ (run (run s x.run).2 (f a).run).1 = .ok b := by
  rw [ExceptT.run_bind, run_bind] at h
  cases hresult : (run s x.run).1 with
  | error e =>
      rw [hresult] at h
      cases h
  | ok a =>
      rw [hresult] at h
      exact ⟨a, rfl, h⟩

section Fragile

variable [Files (StateM σ)] [Journal (StateM σ)] [FragileHost σ]
variable {s before middle after : σ} {place : Place} {text : String} {part : List UInt8}

/-- The disk is the same, seen from the same place. -/
structure Same (before after : σ) : Prop where
  disk : disk after = disk before
  here : here after = here before

/-- Some directories are there that were not. -/
structure Kept (before after : σ) : Prop where
  disk : Extended (disk before) (disk after)
  here : here after = here before

/-- Putting a text into a file broke off: the file holds the first of its bytes. -/
structure Cut (before after : σ) (place : Place) (text : String) (part : List UInt8) : Prop where
  brokeOff : breaksOff σ
  first : part <+: text.toUTF8.toList
  disk : Rewritten (disk before) (disk after) place (.ofBytes part)

/-- A text was to be put into a file: it is there, or else at most directories are new, unless that
broke off. -/
structure Stores {ε : Type} (before : σ) (place : Place) (text : String) (result : Except ε α)
    (after : σ) : Prop where
  done : result.isOk → Rewritten (disk before) (disk after) place (.text text)
  left : result.isOk = false →
    Extended (disk before) (disk after) ∨ ∃ part, Cut before after place text part
  here : here after = here before

theorem Same.refl (s : σ) : Same s s := ⟨rfl, rfl⟩

theorem Same.trans (h : Same before middle) (h' : Same middle after) : Same before after :=
  ⟨h'.disk.trans h.disk, h'.here.trans h.here⟩

theorem Same.kept (h : Same before after) : Kept before after :=
  ⟨h.disk ▸ .refl _, h.here⟩

theorem Kept.refl (s : σ) : Kept s s := (Same.refl s).kept

theorem Kept.trans (h : Kept before middle) (h' : Kept middle after) : Kept before after :=
  ⟨h.disk.trans h'.disk, h'.here.trans h.here⟩

theorem Kept.cut (h : Kept before middle) (h' : Cut middle after place text part) :
    Cut before after place text part :=
  ⟨h'.brokeOff, h'.first, h.disk.rewritten h'.disk⟩

theorem Kept.stores {ε : Type} {result : Except ε α} (h : Kept before middle)
    (h' : Stores middle place text result after) : Stores before place text result after where
  done hresult := h.disk.rewritten (h'.done hresult)
  left hresult := (h'.left hresult).imp h.disk.trans fun ⟨part, hcut⟩ => ⟨part, h.cut hcut⟩
  here := h'.here.trans h.here

theorem Kept.stores_of_error {ε : Type} {result : Except ε α} (h : Kept before after)
    (hresult : result.isOk = false) : Stores before place text result after :=
  ⟨by simp [hresult], fun _ => .inl h.disk, h.here⟩

/-- Whether a text was put into a file does not depend on what else is told about it. -/
theorem Stores.of_isOk {ε ε' : Type} {result : Except ε α} {result' : Except ε' β}
    (h : Stores before place text result after) (hresult : result'.isOk = result.isOk) :
    Stores before place text result' after :=
  ⟨fun hok => h.done (hresult ▸ hok), fun herror => h.left (hresult ▸ herror), h.here⟩

/-- Whatever comes of it, at most directories and the file are new. -/
theorem Stores.extended_or_rewritten {ε : Type} {result : Except ε α}
    (h : Stores before place text result after) : Extended (disk before) (disk after) ∨
      ∃ content, Rewritten (disk before) (disk after) place content := by
  cases result with
  | ok a => exact .inr ⟨_, h.done rfl⟩
  | error e => exact (h.left rfl).imp id fun ⟨_, hcut⟩ => ⟨_, hcut.disk⟩

section Operations

variable (s : σ) (path : Path)

theorem run_readText :
    run s (Files.readText path) = ((disk s).readText (here s) path, s) := readText_eq s path

theorem run_entries : run s (Files.entries path) = ((disk s).entries (here s) path, s) :=
  entries_eq s path

theorem run_pathExists :
    run s (Files.pathExists path) = (((disk s).find (here s) path).isOk, s) := pathExists_eq s path

theorem run_modified : run s (Files.modified path) =
    ((((disk s).find (here s) path).map fun found => found.2.modified).toOption, s) :=
  modified_eq s path

theorem same_record (event : Event) : Same s (run s (Journal.record event)).2 :=
  ⟨(record_keeps s event).1, (record_keeps s event).2⟩

theorem same_info (message : String) (fields : List (String × String)) :
    Same s (run s (Journal.info message fields)).2 := same_record s ⟨.info, message, fields⟩

theorem same_error (message : String) (fields : List (String × String)) :
    Same s (run s (Journal.error message fields)).2 := same_record s ⟨.error, message, fields⟩

/-- When directories are to be made, upper ones of them are, be it none or all. -/
theorem exists_made :
    ∃ upper now, upper <:+ path.ancestors ∧
      disk (run s (Files.makeDirectories path)).2 = (makeAll (here s) now upper (disk s)).2 := by
  have htried := makeDirectories_tried s path
  rw [run]
  generalize ((Files.makeDirectories path : StateM σ _) s).1 = result at htried
  generalize disk ((Files.makeDirectories path : StateM σ _) s).2 = after at htried
  cases htried with
  | happened now => exact ⟨path.ancestors, now, List.suffix_rfl, rfl⟩
  | failed e => exact ⟨[], ⟨0, 0⟩, List.nil_suffix, rfl⟩
  | brokeOff e h =>
      obtain ⟨-, upper, now, hupper, rfl⟩ := h
      exact ⟨upper, now, hupper, rfl⟩

theorem kept_makeDirectories : Kept s (run s (Files.makeDirectories path)).2 := by
  obtain ⟨upper, now, -, hmade⟩ := exists_made s path
  exact ⟨hmade ▸ extended_makeAll _ _ now upper, here_makeDirectories s path⟩

/-- A text that is to be put into a file is put there, or nothing changes, or that breaks off. -/
theorem writeText_cases (text : String) :
    let written := run s (Files.writeText path text)
    (written.1.isOk ∧
        ∃ now, (disk s).writeFile (here s) path (.text text) now = .ok (disk written.2)) ∨
      written.1.isOk = false ∧ (disk written.2 = disk s ∨
        breaksOff σ ∧ (disk s).BegunFile (here s) path text (disk written.2)) := by
  have htried := writeText_tried s path text
  dsimp only
  rw [run]
  generalize ((Files.writeText path text : StateM σ _) s).1 = result at htried
  generalize disk ((Files.writeText path text : StateM σ _) s).2 = after at htried
  cases htried with
  | happened now =>
      cases hwrite : (disk s).writeFile (here s) path (.text text) now with
      | error e => exact .inr ⟨rfl, .inl rfl⟩
      | ok written => exact .inl ⟨rfl, now, hwrite⟩
  | failed e => exact .inr ⟨rfl, .inl rfl⟩
  | brokeOff e h => exact .inr ⟨rfl, .inr h⟩

theorem stores_writeText (text : String) :
    Stores s (spot (here s) path) text (run s (Files.writeText path text)).1
      (run s (Files.writeText path text)).2 := by
  have hhere := here_writeText s path text
  rcases writeText_cases s path text with ⟨hok, now, hwrite⟩ | ⟨herror, hleft⟩
  · exact ⟨fun _ => rewritten_writeFile hwrite, by simp [hok], hhere⟩
  · refine ⟨by simp [herror], fun _ => ?_, hhere⟩
    rcases hleft with hsame | ⟨hbreaks, part, now, hpart, hwrite⟩
    · exact .inl (hsame ▸ .refl _)
    · exact .inr ⟨part, hbreaks, hpart, rewritten_writeFile hwrite⟩

/-- A text that is put into a file changes nothing else, whether or not that succeeds. -/
theorem alikeAt_writeText (text : String) {p : Place} (hp : p ≠ spot (here s) path) :
    AlikeAt (disk s) (disk (run s (Files.writeText path text)).2) p := by
  rcases writeText_cases s path text with ⟨-, now, hwrite⟩ | ⟨-, hsame | ⟨-, part, now, -, hwrite⟩⟩
  · exact alikeAt_writeFile hwrite hp
  · exact hsame ▸ .refl _ p
  · exact alikeAt_writeFile hwrite hp

/-- Directories that are made stand where the path or one of those above it leads. -/
theorem alikeAt_makeDirectories {p : Place}
    (hp : ∀ above ∈ path.ancestors, p ≠ spot (here s) above) :
    AlikeAt (disk s) (disk (run s (Files.makeDirectories path)).2) p := by
  obtain ⟨upper, now, hupper, hmade⟩ := exists_made s path
  rw [hmade]
  exact alikeAt_makeAll _ now fun above habove => hp above (hupper.subset habove)

end Operations

section Reading

/-- A program leaves the disk as it is. -/
def Reads (x : StateM σ α) : Prop := ∀ s, Same s (run s x).2

theorem reads_pure (a : α) : Reads (pure a : StateM σ α) := fun s => .refl s

theorem Reads.bind {x : StateM σ α} {f : α → StateM σ β} (hx : Reads x)
    (hf : ∀ a, Reads (f a)) : Reads (x >>= f) :=
  fun s => (hx s).trans (hf _ _)

theorem reads_record (event : Event) : Reads (Journal.record event : StateM σ Unit) :=
  fun s => same_record s event

theorem reads_readText (path : Path) : Reads (Files.readText path : StateM σ _) := by
  intro s
  rw [run_readText]
  exact .refl s

variable {ε : Type}

/-- A step that may fail is followed by another if it does not. -/
theorem Reads.andThen {x : ExceptT ε (StateM σ) α} {f : α → ExceptT ε (StateM σ) β}
    (hx : Reads x.run) (hf : ∀ a, Reads (f a).run) : Reads (x >>= f).run := by
  rw [ExceptT.run_bind]
  refine hx.bind fun result => ?_
  cases result with
  | error e => exact reads_pure _
  | ok a => exact hf a

/-- A step that cannot fail. -/
theorem Reads.lift {x : StateM σ α} (hx : Reads x) : Reads (ExceptT.lift x : ExceptT ε _ α).run :=
  hx.bind fun _ => reads_pure _

end Reading

end Fragile

section Whole

variable [Files (StateM σ)] [Journal (StateM σ)] [Host σ]

/-- Where nothing breaks off, a text that could not be put into a file changed nothing else. -/
theorem Stores.failed {ε : Type} {before after : σ} {place : Place} {text : String}
    {result : Except ε α} (h : Stores before place text result after)
    (hresult : result.isOk = false) : Extended (disk before) (disk after) :=
  (h.left hresult).resolve_right fun ⟨_, hcut⟩ => whole hcut.brokeOff

/-- Removing what a path leads to either fails and changes nothing, or prunes it. -/
theorem remove_cases (s : σ) (path : Path) (hsound : (disk s).Sound)
    (hne : spot (here s) path ≠ []) :
    ((run s (Files.remove path)).1.isOk = false ∧ Same s (run s (Files.remove path)).2) ∨
      ((run s (Files.remove path)).1.isOk ∧ here (run s (Files.remove path)).2 = here s ∧
        Pruned (disk s) (disk (run s (Files.remove path)).2) (spot (here s) path)) := by
  have hhere := here_remove s path
  have htried := remove_tried s path
  rw [run]
  generalize (Files.remove path : StateM σ _) s = outcome at hhere htried ⊢
  obtain ⟨result, after⟩ := outcome
  dsimp only at hhere htried ⊢
  generalize hdisk : disk after = changed at htried
  cases htried with
  | happened now =>
      cases hremove : (disk s).remove (here s) path now with
      | error e =>
          rw [hremove] at hdisk
          exact .inl ⟨rfl, hdisk, hhere⟩
      | ok removed =>
          exact .inr ⟨rfl, hhere, pruned_remove hsound hremove hne⟩
  | failed e => exact .inl ⟨rfl, hdisk, hhere⟩
  | brokeOff e h => exact h.elim

end Whole

end Host
end ComponentCompiler
