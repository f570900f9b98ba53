import ComponentCompiler.Proofs.Cache.Opening
import ComponentCompiler.Proofs.Machine.Edits

/-!
# Emptying a directory on a machine

On a machine an operation fails only for a reason on the disk. So a directory with a path that does
not run through one of its own entries can be emptied, and the result is how many entries it had
(`Listed.clear`); and an index can be saved in it then, which is its only entry (`Listed.reset`).
-/

namespace ComponentCompiler

open Disk

namespace Disk

section Names

variable {disk : Disk} {place : Place}

/-- Setting a time does not change what is in a directory. -/
theorem names_touch (disk : Disk) (p : Place) (time : Timestamp) (place : Place) :
    (disk.touch p time).names place = disk.names place := by
  have hplace : ∀ entry : Place × Node,
      (if entry.1 = p then (p, entry.2.modifiedAt time) else entry).1 = entry.1 := by
    intro entry
    split
    · rename_i heq
      exact heq.symm
    · rfl
  rw [names, touch, List.filterMap_map, names]
  congr 1
  funext entry
  rw [Function.comp_apply, hplace]

/-- What is added to a directory without entries is its only entry. -/
theorem names_add (h : disk.names place = []) (name : String) (node : Node) :
    (disk.add (place ++ [name]) node).names place = [name] := by
  have hrest : ((disk.nodes.filter fun entry => entry.1 != place ++ [name]).filterMap fun entry =>
      if entry.1.dropLast == place then entry.1.getLast? else none) = [] := by
    refine List.filterMap_eq_nil_iff.mpr fun entry hentry => ?_
    exact List.filterMap_eq_nil_iff.mp h entry (List.mem_filter.mp hentry).1
  rw [add, names_touch, names, put, List.filterMap_cons, hrest]
  simp

theorem names_eq_nil_iff : disk.names place = [] ↔ ∀ name, disk.node? (place ++ [name]) = none := by
  simp only [List.eq_nil_iff_forall_not_mem, mem_names, Option.not_isSome_iff_eq_none]

end Names

end Disk

namespace Host

variable {machine after : Machine} {directory path : Path} {version : String}

/-- A path leads to a directory that lists no entry twice, and does not run through an entry. -/
structure Listed (machine : Machine) (directory : Path) : Prop where
  sound : (disk machine).Sound
  reached : Reached (disk machine) (here machine) directory
  named : directory.text ≠ ""
  once : ((disk machine).names (spot (here machine) directory)).Nodup

theorem Listed.find (h : Listed machine directory) : ∃ time, (disk machine).find (here machine)
    directory = .ok (spot (here machine) directory, .directory time) :=
  h.reached.leads.find h.named

theorem Listed.same (h : Listed machine directory) (hsame : Same machine after) :
    Listed after directory := by
  constructor
  · rw [hsame.disk]
    exact h.sound
  · rw [hsame.disk, hsame.here]
    exact h.reached
  · exact h.named
  · rw [hsame.disk, hsame.here]
    exact h.once

section Removing

/-- What a path leads to can be removed. -/
theorem isOk_remove {found : Place × Node}
    (h : (disk machine).find (here machine) path = .ok found) :
    (run machine (Files.remove path)).1.isOk := by
  have hremove : machine.disk.remove machine.here path machine.now =
      .ok (machine.disk.drop found.1 machine.now) := by
    change (disk machine).remove (here machine) path machine.now = _
    rw [Disk.remove, h]
    rfl
  change (machine.change (machine.disk.remove machine.here path machine.now)).1.isOk
  rw [hremove]
  rfl

/-- Entries that are listed once can be removed one after the other. -/
theorem removeAll_eq_ok {names : List String} (hsound : (disk machine).Sound)
    (hreached : Reached (disk machine) (here machine) directory)
    (hnames : ∀ name ∈ names,
      ((disk machine).node? (spot (here machine) directory ++ [name])).isSome)
    (honce : names.Nodup) :
    (run machine (ModuleStore.removeAll (names.map fun name => directory.join ⟨name⟩))).1 =
      .ok names.length := by
  induction names generalizing machine with
  | nil => rfl
  | cons name names ih =>
    obtain ⟨hfresh, honce⟩ := List.nodup_cons.mp honce
    have hthere := hnames name List.mem_cons_self
    have hname : IsName name := hsound.named _ name hthere
    have hspot := spot_join_name (here machine) hname directory
    obtain ⟨node, hnode⟩ := Option.isSome_iff_exists.mp hthere
    have hfind := hreached.leads.find_join hname
    rw [hnode] at hfind
    have hok := isOk_remove hfind
    rw [List.map_cons, ModuleStore.removeAll, run_bind]
    rcases remove_cases machine (directory.join ⟨name⟩) hsound (by simp [hspot]) with
      ⟨hfailed, -⟩ | ⟨-, hhere, hpruned⟩
    · rw [hfailed] at hok
      cases hok
    · rw [hspot] at hpruned
      cases hresult : (run machine (Files.remove (directory.join ⟨name⟩))).1 with
      | error e =>
        rw [hresult] at hok
        cases hok
      | ok _ =>
        generalize (run machine (Files.remove (directory.join ⟨name⟩))).2 = middle
          at hhere hpruned ⊢
        -- The others are still there, and the path still leads to the directory.
        have hrest : (run middle (ModuleStore.removeAll
            (names.map fun name => directory.join ⟨name⟩))).1 = .ok names.length := by
          apply ih (hpruned.sound hsound) _ _ honce
          · rw [hhere]
            exact hreached.keep fun q => hpruned.thinned.isDirectory
          · intro other hother
            rw [hhere]
            refine (hpruned.others _ fun hprefix => ?_).isSome_iff.mpr
              (hnames other (List.mem_cons_of_mem _ hother))
            obtain rfl : name = other := by simpa using hprefix
            exact hfresh hother
        dsimp only
        rw [run_bind, hrest]
        rfl

/-- A directory that is emptied is empty then, and the result is how many entries it had. -/
theorem Listed.clear (h : Listed machine directory) :
    (run machine (ModuleStore.mk directory).clear).1 =
        .ok ((disk machine).names (spot (here machine) directory)).length ∧
      here (run machine (ModuleStore.mk directory).clear).2 = here machine ∧
      Listed (run machine (ModuleStore.mk directory).clear).2 directory ∧
      (disk (run machine (ModuleStore.mk directory).clear).2).names
        (spot (here machine) directory) = [] := by
  obtain ⟨time, hfind⟩ := h.find
  have hentries : (disk machine).entries (here machine) directory =
      .ok (((disk machine).names (spot (here machine) directory)).map
        fun name => directory.join ⟨name⟩) := by
    rw [entries, hfind]
    rfl
  have hresult : (run machine (ModuleStore.mk directory).clear).1 =
      .ok ((disk machine).names (spot (here machine) directory)).length := by
    rw [ModuleStore.clear, run_bind, run_entries, hentries]
    exact removeAll_eq_ok h.sound h.reached (fun name => mem_names.mp) h.once
  obtain ⟨hthins, hgone⟩ := thins_clear h.sound (ModuleStore.mk directory)
  have hempty := names_eq_nil_iff.mpr fun name =>
    hgone (by rw [hresult]; rfl) hfind _ (below_append (List.cons_ne_nil name []) _)
  refine ⟨hresult, hthins.here, ⟨hthins.disk.sound h.sound, ?_, h.named, ?_⟩, hempty⟩
  · rw [hthins.here]
    exact h.reached.keep fun q => hthins.disk.isDirectory
  · rw [hthins.here, hempty]
    exact List.nodup_nil

/-- Nothing is left below a directory that was emptied. -/
theorem Listed.below_clear (h : Listed machine directory) {p : Place}
    (hp : Below (spot (here machine) directory) p) :
    (disk (run machine (ModuleStore.mk directory).clear).2).node? p = none := by
  obtain ⟨time, hfind⟩ := h.find
  exact (thins_clear h.sound (ModuleStore.mk directory)).2 (by rw [h.clear.1]; rfl) hfind p hp

end Removing

section Saving

/-- A directory that is there need not be made. -/
theorem run_makeDirectories {place : Place} {time : Timestamp}
    (h : (disk machine).find (here machine) path = .ok (place, .directory time)) :
    run machine (Files.makeDirectories path) = (.ok (), machine.withDisk machine.disk) := by
  have hmake := makeDirectories_of_find h machine.now
  change ((machine.disk.makeDirectories machine.here path machine.now).1,
    machine.withDisk (machine.disk.makeDirectories machine.here path machine.now).2) = _
  change machine.disk.makeDirectories machine.here path machine.now = _ at hmake
  rw [hmake]
  rfl

theorem run_writeText {text : String} {written : Disk}
    (h : (disk machine).writeFile (here machine) path (.text text) machine.now = .ok written) :
    run machine (Files.writeText path text) = (.ok (), machine.withDisk written) := by
  change machine.change (machine.disk.writeFile machine.here path (.text text) machine.now) = _
  change machine.disk.writeFile machine.here path (.text text) machine.now = _ at h
  rw [h]
  rfl

/-- An index can be saved in an empty directory, and is its only entry then. -/
theorem Listed.save (h : Listed machine directory)
    (hempty : (disk machine).names (spot (here machine) directory) = []) (index : CacheIndex) :
    (run machine (index.save directory)).1 = .ok () ∧
      Listed (run machine (index.save directory)).2 directory ∧
      (disk (run machine (index.save directory)).2).names (spot (here machine) directory) =
        CacheIndex.names := by
  obtain ⟨time, hfind⟩ := h.find
  have hnames := names_add hempty "revue.json"
    (.file (.text index.document) (machine.withDisk machine.disk).now)
  have hadd := writeFile_join hfind CacheIndex.isName_fileName (names_eq_nil_iff.mp hempty _)
    (.text index.document) (machine.withDisk machine.disk).now
  generalize (disk machine).add (spot (here machine) directory ++ ["revue.json"])
    (.file (.text index.document) (machine.withDisk machine.disk).now) = written at hnames hadd
  have hwrite : (disk (machine.withDisk machine.disk)).writeFile
      (here (machine.withDisk machine.disk)) (directory.join CacheIndex.fileName)
      (.text index.document) (machine.withDisk machine.disk).now = .ok written := hadd
  have hsave : run machine (index.save directory) =
      (.ok (), (machine.withDisk machine.disk).withDisk written) := by
    rw [CacheIndex.save, run_bind, run_makeDirectories hfind]
    dsimp only
    rw [run_bind, run_writeText hwrite]
    rfl
  have hstores := stores_save machine index directory
  rw [hsave] at hstores ⊢
  refine ⟨rfl, ⟨hstores.sound h.sound, ?_, h.named, ?_⟩, hnames⟩
  · exact h.reached.keep fun q _ => hstores.isDirectory
  · have honce : ["revue.json"].Nodup := by decide
    exact hnames ▸ honce

/-- A directory that is emptied for a new index can get that, and has no other entry then. -/
theorem Listed.reset (h : Listed machine directory) (version : String) :
    (run machine (Cache.reset directory version)).1 = .ok (CacheIndex.empty version) ∧
      Listed (run machine (Cache.reset directory version)).2 directory ∧
      (disk (run machine (Cache.reset directory version)).2).names
        (spot (here machine) directory) = CacheIndex.names := by
  have htold := same_info machine "cache metadata is outdated, cleaning cache" []
  rw [Cache.reset, run_bind, ← htold.here]
  have hlisted := h.same htold
  generalize (run machine (Journal.info "cache metadata is outdated, cleaning cache")).2 = told
    at hlisted ⊢
  obtain ⟨hresult, hhere, hcleared, hempty⟩ := hlisted.clear
  rw [run_bind, hresult]
  generalize (run told (ModuleStore.mk directory).clear).2 = cleared at hhere hcleared hempty ⊢
  rw [← hhere] at hempty ⊢
  obtain ⟨hsaved, hafter, hnames⟩ := hcleared.save hempty (CacheIndex.empty version)
  dsimp only
  rw [run_bind, hsaved]
  exact ⟨rfl, hafter, hnames⟩

end Saving

end Host
end ComponentCompiler
