import ComponentCompiler.Proofs.Cache.Effects
import ComponentCompiler.Proofs.Machine.Edits
import ComponentCompiler.Proofs.Path.Ancestors

/-!
# Modules stay in their directory

The path of a module is the path of the directory with names behind it, whatever the key is: nothing
of a key leads up or starts the path anew (`components_path`). So what is read for a key stands in
the directory, and storing a module changes nothing elsewhere, except that directories may be made
on the way to the directory of the cache (`modules_stay_inside`).
-/

namespace ComponentCompiler

open Disk Text

namespace ModuleStore

variable {parts : List (List Char)} {here p : Place}

/-- The parts of a key that have a place in the path of its module. -/
def keptParts (key : String) : List (List Char) := (pieces '/' key.toList).filter keepsPart

theorem path_eq (store : ModuleStore) (key : String) : store.path key =
    (keptParts key).foldl (fun path part => path.join ⟨String.ofList part⟩) store.directory := rfl

theorem of_mem_keptParts {key : String} {part : List Char} (h : part ∈ keptParts key) :
    '/' ∉ part ∧ part ≠ ['.', '.'] := by
  obtain ⟨hpiece, hkept⟩ := List.mem_filter.mp h
  refine ⟨not_mem_of_mem_pieces hpiece, ?_⟩
  rintro rfl
  exact absurd hkept (by decide)

/-- Pieces that do not lead up are joined to a path one after the other. -/
theorem foldl_join (h : ∀ part ∈ parts, '/' ∉ part ∧ part ≠ ['.', '.']) (directory : Path) :
    let path := parts.foldl (fun path part => path.join ⟨String.ofList part⟩) directory
    path.isAbsolute = directory.isAbsolute ∧
      path.parts = directory.parts ++ parts.filter (!Path.isSilent ·) ∧
      ∃ added, path.components = directory.components ++ added ∧
        ∀ c ∈ added, c = .here ∨ ∃ part ∈ parts, Path.isSilent part = false ∧ c = .name part := by
  induction parts generalizing directory with
  | nil => exact ⟨rfl, by simp, [], by simp, nofun⟩
  | cons part parts ih =>
      obtain ⟨hslash, hup⟩ := h part List.mem_cons_self
      have hpiece : '/' ∉ (Path.mk (String.ofList part)).text.toList := by simpa using hslash
      obtain ⟨habsolute, hparts, -⟩ :=
        Path.join_keeps (Path.isAbsolute_of_not_mem hpiece) directory
      obtain ⟨first, hfirst, hfirstNamed⟩ := Path.components_join_piece hslash hup directory
      obtain ⟨habsolute', hparts', rest, hrest, hrestNamed⟩ :=
        ih (fun q hq => h q (List.mem_cons_of_mem part hq))
          (directory.join ⟨String.ofList part⟩)
      rw [Path.parts_piece hslash] at hparts
      dsimp only at habsolute' hparts' hrest ⊢
      rw [List.foldl_cons]
      refine ⟨habsolute'.trans habsolute, ?_, first ++ rest, ?_, fun c hc => ?_⟩
      · rw [hparts', hparts, List.append_assoc, ← List.filter_append, List.singleton_append]
      · rw [hrest, hfirst, List.append_assoc]
      · rcases List.mem_append.mp hc with hc | hc
        · exact (hfirstNamed c hc).imp id fun hname => ⟨part, List.mem_cons_self, hname⟩
        · exact (hrestNamed c hc).imp id fun ⟨q, hq, hname⟩ =>
            ⟨q, List.mem_cons_of_mem part hq, hname⟩

/-- The path of a module is that of the directory, and behind it only names and dots. -/
theorem components_path (store : ModuleStore) (key : String) :
    ∃ added, (store.path key).components = store.directory.components ++ added ∧
      ∀ c ∈ added, c = .here ∨ ∃ name, c = .name name ∧ '/' ∉ name ∧
        Path.isSilent name = false ∧ name ≠ ['.', '.'] := by
  obtain ⟨-, -, added, hadded, hnamed⟩ :=
    foldl_join (fun part (hpart : part ∈ keptParts key) => of_mem_keptParts hpart) store.directory
  refine ⟨added, hadded, fun c hc => (hnamed c hc).imp id ?_⟩
  rintro ⟨part, hpart, hloud, rfl⟩
  exact ⟨part, rfl, (of_mem_keptParts hpart).1, hloud, (of_mem_keptParts hpart).2⟩

/-- What leads up or names a drive is left out, and so are empty parts. -/
example : (ModuleStore.mk ⟨"/c"⟩).path "/../C:/./a//b" = ⟨"/c/./a/b"⟩ := by decide +kernel

/-- On the way to a module one passes only places on the way to the directory, and places in it. -/
theorem passes_path {store : ModuleStore} {key : String} (h : Passes here (store.path key) p) :
    Passes here store.directory p ∨ spot here store.directory <+: p := by
  obtain ⟨habsolute, hparts, -⟩ :=
    foldl_join (fun part (hpart : part ∈ keptParts key) => of_mem_keptParts hpart) store.directory
  rw [← path_eq] at habsolute hparts
  obtain ⟨front, hfront, rfl⟩ := h
  rw [hparts] at hfront
  rw [habsolute]
  rcases List.prefix_or_prefix_of_prefix hfront (List.prefix_append _ _) with hshort | ⟨rest, rfl⟩
  · exact .inl ⟨front, hshort, rfl⟩
  · right
    have hnames : ∀ part ∈ rest, Path.isSilent part = false ∧ part ≠ ['.', '.'] := by
      intro part hpart
      obtain ⟨hmem, hloud⟩ :=
        List.mem_filter.mp (((List.prefix_append_right_inj _).mp hfront).subset hpart)
      exact ⟨by simpa using hloud, (of_mem_keptParts hmem).2⟩
    rw [List.foldl_append, ← spot_eq_parts, foldl_move_names hnames]
    exact List.prefix_append _ _

/-- The way to a module starts with the way to its directory. -/
theorem passes_of_directory {store : ModuleStore} {key : String}
    (h : Passes here store.directory p) : Passes here (store.path key) p := by
  obtain ⟨habsolute, hparts, -⟩ :=
    foldl_join (fun part (hpart : part ∈ keptParts key) => of_mem_keptParts hpart) store.directory
  rw [← path_eq] at habsolute hparts
  obtain ⟨front, hfront, rfl⟩ := h
  exact ⟨front, hparts ▸ hfront.trans (List.prefix_append _ _), by rw [habsolute]⟩

end ModuleStore

namespace Host

variable {σ : Type} [Files (StateM σ)] [Journal (StateM σ)] [FragileHost σ]

/-- Writing a module changes nothing that is not on the way to it. -/
theorem alikeAt_write_of_not_passes (s : σ) (store : ModuleStore) (key content : String)
    {p : Place} (hp : ¬Passes (here s) (store.path key) p) :
    AlikeAt (disk s) (disk (run s (store.write key content)).2) p := by
  have hway : ∀ {q}, Passes (here s) (store.path key) q → p ≠ q := by
    rintro q hq rfl
    exact hp hq
  have hmodule : p ≠ spot (here s) (store.path key) :=
    hway ⟨_, List.prefix_rfl, spot_eq_parts _ _⟩
  have hparent : AlikeAt (disk s)
      (disk (run s (ModuleStore.makeParent (store.path key))).2) p := by
    unfold ModuleStore.makeParent
    split
    · exact .refl _ p
    · rename_i parent hparent
      refine alikeAt_makeDirectories s parent fun above habove => hway ?_
      exact (passes_of_mem_ancestors (here s) habove).of_parent? hparent
  rw [← (kept_makeParent s (store.path key)).here] at hmodule
  rcases write_cases s store key content with ⟨-, hafter⟩ | ⟨-, hafter⟩
  · rwa [hafter]
  · rw [hafter]
    exact hparent.trans (alikeAt_writeText _ (store.path key) content hmodule)

/-- Storing a module changes nothing but in its directory and on the way there. -/
theorem alikeAt_write (s : σ) (store : ModuleStore) (key content : String) {p : Place}
    (houtside : ¬spot (here s) store.directory <+: p)
    (haway : ¬Passes (here s) store.directory p) :
    AlikeAt (disk s) (disk (run s (store.write key content)).2) p :=
  alikeAt_write_of_not_passes s store key content fun hpass =>
    (ModuleStore.passes_path hpass).elim haway houtside

/-- Whatever a key is, its module stays in the directory. The path of the module is that of the
directory with names behind it. What is read is what a file at or below the place of the directory
holds. Storing a module changes nothing elsewhere, but that directories may be made on the way to
the directory; the directory stays one. -/
theorem modules_stay_inside (s : σ) (store : ModuleStore) (key content : String) :
    let place := spot (here s) store.directory
    let after := (run s (store.write key content)).2
    (∃ added, (store.path key).components = store.directory.components ++ added ∧
      ∀ c ∈ added, c = .here ∨ ∃ name, c = .name name ∧ '/' ∉ name ∧
        Path.isSilent name = false ∧ name ≠ ['.', '.']) ∧
    ((run s (store.read? key)).2 = s ∧ ∀ text, (run s (store.read? key)).1 = some text →
      (disk s).contentAt (place ++ ModuleStore.names key) = some (.text text)) ∧
    (∀ p, ¬place <+: p → GrownAt (disk s) (disk after) p ∧
      (¬Passes (here s) store.directory p → AlikeAt (disk s) (disk after) p)) ∧
    ((disk s).IsDirectory place → (disk after).IsDirectory place) := by
  have hstores := stores_write s store key content
  refine ⟨store.components_path key, ⟨?_, fun text htext => ?_⟩, fun p houtside => ?_,
    hstores.isDirectory⟩
  · rw [run_read?]
  · rw [run_read?] at htext
    rw [← ModuleStore.spot_path]
    exact contentAt_of_readText (ok_of_toOption htext)
  · refine ⟨hstores.grownAt ?_, alikeAt_write s store key content houtside⟩
    rintro rfl
    exact houtside (List.prefix_append _ _)

end Host
end ComponentCompiler
