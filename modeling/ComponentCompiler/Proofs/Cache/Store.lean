import ComponentCompiler.Cache.Modules
import ComponentCompiler.Proofs.Machine.Files
import ComponentCompiler.Proofs.Machine.Paths

/-!
# Where modules are stored

A module is stored at the names of its key (`ModuleStore.names`), whatever the parts of the key are
that are no names. Two keys with the same names share a file. A key all of whose parts are names
(`ModuleStore.Plain`) can be told from its names, so two such keys share none.
-/

namespace ComponentCompiler

open Disk Machine

section Results

theorem isOk_map {ε α β : Type} (f : α → β) (result : Except ε α) :
    (result.map f).isOk = result.isOk := by
  cases result <;> rfl

theorem isOk_blame {α : Type} (path : Path) (result : Except FileError α) :
    (blame path result).isOk = result.isOk := by
  cases result <;> rfl

end Results

namespace ModuleStore

/-- The names at which the module with a key is stored. -/
def names (key : String) : List String :=
  (((Text.pieces '/' key.toList).filter keepsPart).filter (!Path.isSilent ·)).map String.ofList

theorem spot_foldl_join (here : Place) {parts : List (List Char)} (directory : Path)
    (h : ∀ part ∈ parts, '/' ∉ part ∧ part ≠ ['.', '.']) :
    spot here (parts.foldl (fun path part => path.join ⟨String.ofList part⟩) directory) =
      spot here directory ++ (parts.filter (!Path.isSilent ·)).map String.ofList := by
  induction parts generalizing directory with
  | nil => simp
  | cons part parts ih =>
      obtain ⟨hslash, hup⟩ := h part List.mem_cons_self
      rw [List.foldl_cons, ih _ fun q hq => h q (List.mem_cons_of_mem part hq),
        spot_join_piece here hslash, List.filter_cons]
      cases hsilent : Path.isSilent part with
      | true => simp [move, hsilent]
      | false => simp [move, hsilent, hup]

/-- The file of a module is at the names of its key below the directory. -/
theorem spot_path (here : Place) (store : ModuleStore) (key : String) :
    spot here (store.path key) = spot here store.directory ++ names key := by
  refine spot_foldl_join here store.directory fun part hpart => ?_
  obtain ⟨hpiece, hkept⟩ := List.mem_filter.mp hpart
  refine ⟨Text.not_mem_of_mem_pieces hpiece, ?_⟩
  rintro rfl
  exact absurd hkept (by decide)

/-- A key all of whose parts are names. -/
def Plain (key : String) : Prop :=
  ∀ part ∈ Text.pieces '/' key.toList, keepsPart part ∧ !Path.isSilent part

instance (key : String) : Decidable (Plain key) :=
  inferInstanceAs (Decidable (∀ part ∈ Text.pieces '/' key.toList, _))

theorem names_of_plain {key : String} (h : Plain key) :
    names key = (Text.pieces '/' key.toList).map String.ofList := by
  rw [names, List.filter_eq_self.mpr fun part hpart => (h part hpart).1,
    List.filter_eq_self.mpr fun part hpart => (h part hpart).2]

/-- Different keys all of whose parts are names do not share a file. -/
theorem eq_of_names_eq {key key' : String} (h : Plain key) (h' : Plain key')
    (same : names key = names key') : key = key' := by
  rw [names_of_plain h, names_of_plain h'] at same
  have hpieces := (List.map_inj_right fun _ _ heq => String.ofList_inj.mp heq).mp same
  rw [← String.toList_inj, ← Text.joined_pieces '/' key.toList, hpieces, Text.joined_pieces]

section Programs

variable {machine machine' : Machine} {store : ModuleStore} {key content : String}

theorem quiet_makeParent (machine : Machine) (path : Path) :
    Quiet machine (machine.run (makeParent path)).2 := by
  unfold makeParent
  split
  · exact .refl machine
  · exact quiet_makeDirectories machine _

/-- A module that is stored is at the names of its key. -/
theorem attempts_write (machine : Machine) (store : ModuleStore) (key content : String) :
    Attempts machine (spot machine.here store.directory ++ names key) content
      (machine.run (store.write key content)) := by
  have hparent := quiet_makeParent machine (store.path key)
  rw [← spot_path, ← hparent.here]
  refine hparent.attempts ?_
  rw [write, run_bind]
  generalize (machine.run (makeParent (store.path key))).2 = middle
  split
  · exact (Quiet.refl middle).attempts_error
  · rw [run_bind, run_pure]
    refine (attempts_writeText middle (store.path key) content).of_isOk ?_
    rw [isOk_map, isOk_blame]

/-- What is read for a key is what the file at its names holds. -/
theorem contentAt_of_read? (h : (machine.run (store.read? key)).1 = some content) :
    machine.disk.contentAt (spot machine.here store.directory ++ names key) =
      some (.text content) := by
  rw [← spot_path]
  change (machine.disk.readText machine.here (store.path key)).toOption = some content at h
  exact Disk.contentAt_of_readText (ok_of_toOption h)

theorem fewer_removeAll (machine : Machine) (paths : List Path) :
    Fewer machine (machine.run (removeAll paths)).2 := by
  induction paths generalizing machine with
  | nil => exact (Quiet.refl machine).fewer
  | cons path paths ih =>
      rw [removeAll, run_bind]
      refine (fewer_remove machine path).trans ?_
      split
      · exact (Quiet.refl _).fewer
      · exact ih _

/-- Emptying the directory only takes files away. -/
theorem fewer_clear (machine : Machine) (store : ModuleStore) :
    Fewer machine (machine.run store.clear).2 := by
  rw [clear, run_bind]
  have hentries : (machine.run (Files.entries store.directory)).2 = machine := rfl
  rw [hentries]
  split
  · exact (Quiet.refl machine).fewer
  · exact (Quiet.refl machine).fewer
  · exact fewer_removeAll machine _

end Programs

end ModuleStore
namespace CacheIndex

/-- The name of the file in a cache directory that holds the index. -/
def names : List String := ["revue.json"]

theorem isName_fileName : IsName "revue.json" := by decide

theorem spot_fileName (here : Place) (directory : Path) :
    spot here (directory.join fileName) = spot here directory ++ names := by
  exact spot_join_name here isName_fileName directory

/-- An index that is written is at its name. -/
theorem attempts_save (machine : Machine) (index : CacheIndex) (directory : Path) :
    Attempts machine (spot machine.here directory ++ names) index.document
      (machine.run (index.save directory)) := by
  have hdirectory := quiet_makeDirectories machine directory
  rw [← spot_fileName, ← hdirectory.here]
  refine hdirectory.attempts ?_
  rw [save, run_bind]
  generalize (machine.run (Files.makeDirectories directory)).2 = middle
  split
  · exact (Quiet.refl middle).attempts_error
  · rw [run_bind, run_pure]
    exact (attempts_writeText middle (directory.join fileName) index.document).of_isOk
      (isOk_blame _ _)

end CacheIndex
end ComponentCompiler
