import ComponentCompiler.Proofs.Cache.Effects
import ComponentCompiler.Proofs.Machine.Directory

/-!
# What opening a cache does

A cache is opened with the index in its directory if that index is for the same version of the
compiler and of the format, and then nothing changes. Otherwise its index is empty, and if there was
a file with the name of the index the directory is emptied and gets the document of an empty index
(`openAt_cases`).
-/

namespace ComponentCompiler

open Disk

namespace Host

variable {σ : Type} [Files (StateM σ)] [Journal (StateM σ)] [Host σ]
variable {s before middle after : σ} {place : Place} {directory root : Path}
  {compilerVersion : String} {index : CacheIndex} {cache : Cache}

section Clearing

/-- Removing entries of a directory thins it out, and if nothing fails they are gone. -/
theorem thins_removeAll {names : List String} (hsound : (disk s).Sound)
    (hnames : ∀ name ∈ names, IsName name) (directory : Path) :
    let outcome := run s (ModuleStore.removeAll (names.map fun name => directory.join ⟨name⟩))
    Thins s outcome.2 (spot (here s) directory) ∧
      (outcome.1.isOk → ∀ name ∈ names, ∀ rest,
        (disk outcome.2).node? (spot (here s) directory ++ name :: rest) = none) := by
  induction names generalizing s with
  | nil => exact ⟨(Same.refl s).thins _, fun _ name hname => absurd hname List.not_mem_nil⟩
  | cons name names ih =>
    have hspot := spot_join_name (here s) (hnames name List.mem_cons_self) directory
    have hne : spot (here s) (directory.join ⟨name⟩) ≠ [] := by simp [hspot]
    have hrest : ∀ name ∈ names, IsName name :=
      fun other hother => hnames other (List.mem_cons_of_mem _ hother)
    dsimp only
    rw [List.map_cons, ModuleStore.removeAll, run_bind]
    rcases remove_cases s (directory.join ⟨name⟩) hsound hne with
      ⟨hfailed, hsame⟩ | ⟨hdone, hhere, hpruned⟩
    · cases hresult : (run s (Files.remove (directory.join ⟨name⟩))).1 with
      | ok _ =>
        rw [hresult] at hfailed
        cases hfailed
      | error e => exact ⟨hsame.thins _, fun hok => absurd hok Bool.false_ne_true⟩
    · cases hresult : (run s (Files.remove (directory.join ⟨name⟩))).1 with
      | error e =>
        rw [hresult] at hdone
        cases hdone
      | ok _ =>
        rw [hspot] at hpruned
        generalize (run s (Files.remove (directory.join ⟨name⟩))).2 = middle at hhere hpruned
        obtain ⟨hthins, hgone⟩ := ih (s := middle) (hpruned.sound hsound) hrest
        rw [hhere] at hthins hgone
        dsimp only
        rw [run_bind, run_pure, isOk_map]
        refine ⟨Thins.trans ⟨hpruned.thinned, hhere⟩ hthins, fun hok other hother rest => ?_⟩
        rcases List.mem_cons.mp hother with rfl | hother
        · exact hthins.disk.gone (hpruned.below _ ⟨rest, by simp⟩)
        · exact hgone hok other hother rest

/-- Emptying a directory thins it out, and if it is there and nothing fails nothing is left in
it. -/
theorem thins_clear (hsound : (disk s).Sound) (store : ModuleStore) :
    Thins s (run s store.clear).2 (spot (here s) store.directory) ∧
      ((run s store.clear).1.isOk → ∀ {time : Timestamp},
        (disk s).find (here s) store.directory =
            .ok (spot (here s) store.directory, .directory time) →
          ∀ p, Below (spot (here s) store.directory) p →
            (disk (run s store.clear).2).node? p = none) := by
  rw [ModuleStore.clear, run_bind, run_entries]
  dsimp only
  cases hentries : (disk s).entries (here s) store.directory with
  | error e =>
    have hfind : ∀ {time : Timestamp}, (disk s).find (here s) store.directory ≠
        .ok (spot (here s) store.directory, .directory time) := by
      intro time hfind
      rw [entries, hfind] at hentries
      cases hentries
    split
    · exact ⟨(Same.refl s).thins _, fun _ _ h => absurd h hfind⟩
    · exact ⟨(Same.refl s).thins _, fun _ _ h => absurd h hfind⟩
    · cases ‹_›
  | ok paths =>
    obtain ⟨⟨place, node⟩, hfind, hpaths⟩ := bind_eq_ok hentries
    obtain ⟨rfl, hnode⟩ := find_eq_ok hfind
    cases node with
    | file _ _ => cases hpaths
    | directory time =>
      cases hpaths
      have hnames : ∀ name ∈ (disk s).names (spot (here s) store.directory), IsName name :=
        fun name hname => hsound.named _ name (mem_names.mp hname)
      obtain ⟨hthins, hgone⟩ := thins_removeAll hsound hnames store.directory
      refine ⟨hthins, fun hok time _ p hp => ?_⟩
      obtain ⟨name, rest, rfl⟩ := hp
      cases hentry : (disk s).node? (spot (here s) store.directory ++ name :: rest) with
      | none => exact hthins.disk.gone hentry
      | some node =>
        rw [List.append_cons] at hentry
        have hname := hsound.above (Option.isSome_of_eq_some hentry)
        exact hgone hok name (mem_names.mpr hname) rest

end Clearing

section Saving

/-- In a directory that is there, saving an index changes nothing but its document. -/
theorem alikeAt_save (index : CacheIndex) {time : Timestamp}
    (h : (disk s).find (here s) directory = .ok (spot (here s) directory, .directory time))
    {p : Place} (hp : p ≠ spot (here s) directory ++ CacheIndex.names) :
    AlikeAt (disk s) (disk (run s (index.save directory)).2) p := by
  have hsame := same_makeDirectories h
  rw [CacheIndex.save, run_bind, ← hsame.disk]
  rw [← hsame.here] at hp
  generalize (run s (Files.makeDirectories directory)).2 = middle at hp ⊢
  split
  · exact .refl _ p
  · rw [run_bind, run_pure]
    exact alikeAt_writeText middle _ _ (by rwa [CacheIndex.spot_fileName])

end Saving

section Opening

/-- The index that can be read in a directory, if there is one. -/
def indexIn (s : σ) (directory : Path) : Option CacheIndex :=
  ((disk s).readText (here s) (directory.join CacheIndex.fileName)).toOption.bind Json.read?

theorem Same.indexIn_eq (h : Same before after) (directory : Path) :
    indexIn after directory = indexIn before directory := by
  rw [indexIn, indexIn, h.disk, h.here]

theorem run_load (s : σ) (directory : Path) :
    (run s (CacheIndex.load directory)).1 = indexIn s directory ∧
      Same s (run s (CacheIndex.load directory)).2 := by
  rw [CacheIndex.load, run_bind, run_readText, indexIn]
  cases (disk s).readText (here s) (directory.join CacheIndex.fileName) with
  | error e => exact ⟨rfl, .refl s⟩
  | ok document =>
    dsimp only [Except.toOption, Option.bind_some]
    split
    · rename_i hread
      rw [hread]
      exact ⟨rfl, .refl s⟩
    · rename_i hread
      rw [hread, run_bind, run_pure]
      exact ⟨rfl, same_error s _ _⟩

omit [Host σ] in
theorem index_of_reset
    (h : (run s (Cache.reset directory compilerVersion)).1 = .ok index) :
    index = CacheIndex.empty compilerVersion := by
  rw [Cache.reset, run_bind] at h
  generalize (run s (Journal.info "cache metadata is outdated, cleaning cache")).2 = told at h
  rw [run_bind] at h
  generalize run told (ModuleStore.mk directory).clear = cleared at h
  split at h
  · cases h
  · rw [run_bind, run_pure] at h
    generalize (run cleared.2 ((CacheIndex.empty compilerVersion).save directory)).1 = saved at h
    cases saved with
    | error e => cases h
    | ok _ =>
      cases h
      rfl

/-- Putting an empty index into a directory either fails somewhere, or saves it where everything
was removed. -/
theorem reset_cases (hsound : (disk s).Sound) (directory : Path) (compilerVersion : String) :
    let outcome := run s (Cache.reset directory compilerVersion)
    let place := spot (here s) directory
    (∃ e middle, outcome.1 = .error e ∧ Thins s middle place ∧ Kept middle outcome.2) ∨
      ∃ middle, outcome.1 = .ok (CacheIndex.empty compilerVersion) ∧ Thins s middle place ∧
        (∀ {time : Timestamp},
          (disk s).find (here s) directory = .ok (place, .directory time) →
            ∀ p, Below place p → (disk middle).node? p = none) ∧
        (run middle ((CacheIndex.empty compilerVersion).save directory)).1.isOk ∧
        outcome.2 = (run middle ((CacheIndex.empty compilerVersion).save directory)).2 := by
  have hinfo := same_info s "cache metadata is outdated, cleaning cache" []
  dsimp only
  rw [Cache.reset, run_bind]
  generalize (run s (Journal.info "cache metadata is outdated, cleaning cache")).2 = told at hinfo
  obtain ⟨hthins, hgone⟩ := thins_clear (hinfo.disk.symm ▸ hsound) (ModuleStore.mk directory)
  rw [run_bind, ← hinfo.here, ← hinfo.disk]
  cases hclear : (run told (ModuleStore.mk directory).clear).1 with
  | error e =>
    exact .inl ⟨e, _, rfl, (hinfo.thins _).trans hthins, .refl _⟩
  | ok removed =>
    rw [hclear] at hgone
    generalize (run told (ModuleStore.mk directory).clear).2 = middle at hthins hgone
    dsimp only
    rw [run_bind, run_pure]
    cases hsave : (run middle ((CacheIndex.empty compilerVersion).save directory)).1 with
    | error e =>
      have hstores := stores_save middle (CacheIndex.empty compilerVersion) directory
      rw [hsave] at hstores
      exact .inl ⟨e, middle, rfl, (hinfo.thins _).trans hthins, ⟨hstores.failed rfl, hstores.here⟩⟩
    | ok _ =>
      exact .inr ⟨middle, rfl, (hinfo.thins _).trans hthins, fun hfind => hgone rfl hfind,
        by rw [hsave]; rfl, rfl⟩

theorem serves_iff : index.serves compilerVersion ↔
    index.version = CacheIndex.formatVersion ∧ index.compilerVersion = compilerVersion := by
  rw [CacheIndex.serves, Bool.and_eq_true, beq_iff_eq, beq_iff_eq]

/-- The index to start with is the one in the directory, or an empty one; where a file with the name
of the index is of no use the directory is reset. -/
theorem openIndex_cases (s : σ) (directory : Path) (compilerVersion : String) :
    let outcome := run s (Cache.openIndex directory compilerVersion)
    (∃ index, indexIn s directory = some index ∧ index.serves compilerVersion ∧
        outcome.1 = .ok index ∧ Same s outcome.2) ∨
      (indexIn s directory).filter (·.serves compilerVersion) = none ∧
        (((disk s).find (here s) (directory.join CacheIndex.fileName)).isOk = false ∧
            outcome.1 = .ok (CacheIndex.empty compilerVersion) ∧ Same s outcome.2 ∨
          ∃ middle, Same s middle ∧
            ((disk s).find (here s) (directory.join CacheIndex.fileName)).isOk ∧
            outcome = run middle (Cache.reset directory compilerVersion)) := by
  obtain ⟨hload, hsame⟩ := run_load s directory
  dsimp only
  rw [Cache.openIndex, run_bind, run_pathExists]
  dsimp only
  rw [run_bind, hload]
  generalize (run s (CacheIndex.load directory)).2 = middle at hsame
  cases hindex : (indexIn s directory).filter (·.serves compilerVersion) with
  | some index =>
    obtain ⟨hread, hserves⟩ := Option.filter_eq_some_iff.mp hindex
    exact .inl ⟨index, hread, hserves, rfl, hsame⟩
  | none =>
    refine .inr ⟨rfl, ?_⟩
    dsimp only
    cases hexists : ((disk s).find (here s) (directory.join CacheIndex.fileName)).isOk with
    | false => exact .inl ⟨rfl, rfl, hsame⟩
    | true => exact .inr ⟨middle, hsame, rfl, rfl⟩

/-- A cache is what its index was opened to. -/
theorem run_openAt (s : σ) (root directory : Path) (compilerVersion : String) :
    ∃ told, Same s told ∧ run s (Cache.openAt root directory compilerVersion) =
      ((run told (Cache.openIndex directory compilerVersion)).1.map fun index =>
          { root, store := ⟨directory⟩, compilerVersion, index },
        (run told (Cache.openIndex directory compilerVersion)).2) := by
  rw [Cache.openAt, run_bind]
  exact ⟨_, same_info s "initializing permanent cache" [("cache_dir", directory.text)], rfl⟩

/-- A cache is opened with the index in its directory if that serves, and with an empty one
otherwise. Where a file with the name of the index is of no use the directory is reset. -/
theorem run_openAt_cases (s : σ) (root directory : Path) (compilerVersion : String) :
    let outcome := run s (Cache.openAt root directory compilerVersion)
    let named := (disk s).find (here s) (directory.join CacheIndex.fileName)
    (∃ index, indexIn s directory = some index ∧ index.serves compilerVersion ∧
        outcome.1 = .ok ⟨root, ⟨directory⟩, compilerVersion, index⟩ ∧ Same s outcome.2) ∨
      (indexIn s directory).filter (·.serves compilerVersion) = none ∧
        (named.isOk = false ∧
            outcome.1 = .ok ⟨root, ⟨directory⟩, compilerVersion, .empty compilerVersion⟩ ∧
            Same s outcome.2 ∨
          named.isOk ∧ ∃ middle, Same s middle ∧
            outcome.1 = (run middle (Cache.reset directory compilerVersion)).1.map (fun _ =>
              ⟨root, ⟨directory⟩, compilerVersion, .empty compilerVersion⟩) ∧
            outcome.2 = (run middle (Cache.reset directory compilerVersion)).2) := by
  obtain ⟨told, htold, hopen⟩ := run_openAt s root directory compilerVersion
  dsimp only
  rw [hopen, ← htold.indexIn_eq, ← htold.disk, ← htold.here]
  rcases openIndex_cases told directory compilerVersion with
    ⟨index, hread, hserves, hindex, hsame⟩ |
      ⟨hnone, ⟨habsent, hindex, hsame⟩ | ⟨middle, hsame, hexists, hreset⟩⟩
  · rw [hindex]
    exact .inl ⟨index, hread, hserves, rfl, htold.trans hsame⟩
  · rw [hindex]
    exact .inr ⟨hnone, .inl ⟨habsent, rfl, htold.trans hsame⟩⟩
  · rw [hreset]
    refine .inr ⟨hnone, .inr ⟨hexists, middle, htold.trans hsame, ?_, rfl⟩⟩
    cases hresult : (run middle (Cache.reset directory compilerVersion)).1 with
    | error e => rfl
    | ok index =>
      rw [index_of_reset hresult]
      rfl

/-- A directory holds the document of an empty index and no other file, and nothing else at all
unless its path runs through it. -/
structure Emptied (s : σ) (directory : Path) (compilerVersion : String) : Prop where
  document : (disk s).contentAt (spot (here s) directory ++ CacheIndex.names) =
    some (.text (CacheIndex.empty compilerVersion).document)
  files : ∀ p, Below (spot (here s) directory) p →
    p ≠ spot (here s) directory ++ CacheIndex.names → (disk s).fileAt p = none
  nodes : (∀ q ∈ way (here s) directory, ¬Below (spot (here s) directory) q) →
    ∀ p, Below (spot (here s) directory) p →
      p ≠ spot (here s) directory ++ CacheIndex.names → (disk s).node? p = none

/-- An index that is saved in a directory without entries is alone there. -/
theorem emptied_save {time : Timestamp} (h : (disk before).find (here before) directory =
      .ok (spot (here before) directory, .directory time))
    (hthins : Thins before s (spot (here before) directory))
    (hgone : ∀ p, Below (spot (here before) directory) p → (disk s).node? p = none)
    (hok : (run s ((CacheIndex.empty compilerVersion).save directory)).1.isOk) :
    Emptied (run s ((CacheIndex.empty compilerVersion).save directory)).2 directory
      compilerVersion := by
  have hstores := stores_save s (CacheIndex.empty compilerVersion) directory
  have hrewritten := hstores.done hok
  have hhere := hstores.here
  rw [← hthins.here] at h hgone
  refine ⟨?_, fun p hp hne => ?_, fun hstraight p hp hne => ?_⟩
  · obtain ⟨time, hnode⟩ := hrewritten.node
    rw [hhere, contentAt, hnode]
    rfl
  · rw [hhere] at hp hne
    rw [(hrewritten.others p hne).fileAt_eq, fileAt, hgone p hp]
    rfl
  · rw [hhere] at hstraight hp hne
    rw [← hthins.here] at hthins
    obtain ⟨time', hfind⟩ := hthins.disk.find h hstraight
    have hsome := (alikeAt_save (.empty compilerVersion) hfind hne).isSome_iff
    rw [hgone p hp] at hsome
    simpa using hsome

/-- A cache that is opened has the index in its directory if that is for the same version of the
format and of the compiler. Otherwise it has an empty index, and a directory with a file of the name
of the index has been emptied. -/
theorem openAt_cases (hsound : (disk s).Sound) (hne : directory.text ≠ "")
    (h : (run s (Cache.openAt root directory compilerVersion)).1 = .ok cache) :
    (∃ index, indexIn s directory = some index ∧ index.version = CacheIndex.formatVersion ∧
        index.compilerVersion = compilerVersion ∧ cache.index = index ∧
        Same s (run s (Cache.openAt root directory compilerVersion)).2) ∨
      (∀ index, indexIn s directory = some index → index.version = CacheIndex.formatVersion →
          index.compilerVersion ≠ compilerVersion) ∧
        cache.index = CacheIndex.empty compilerVersion ∧
        (((disk s).find (here s) (directory.join CacheIndex.fileName)).isOk →
          Emptied (run s (Cache.openAt root directory compilerVersion)).2 directory
            compilerVersion) := by
  rcases run_openAt_cases s root directory compilerVersion with
    ⟨index, hread, hserves, hcache, hsame⟩ | ⟨hnone, hcases⟩
  · rw [hcache] at h
    cases h
    obtain ⟨hformat, hversion⟩ := serves_iff.mp hserves
    exact .inl ⟨index, hread, hformat, hversion, rfl, hsame⟩
  · have hother : ∀ index, indexIn s directory = some index →
        index.version = CacheIndex.formatVersion → index.compilerVersion ≠ compilerVersion := by
      intro index hread hformat hversion
      rw [hread] at hnone
      simp [serves_iff.mpr ⟨hformat, hversion⟩] at hnone
    refine .inr ⟨hother, ?_⟩
    rcases hcases with ⟨habsent, hcache, -⟩ | ⟨hexists, middle, hmiddle, hcache, hafter⟩
    · rw [hcache] at h
      cases h
      exact ⟨rfl, fun hexists => absurd hexists (by simp [habsent])⟩
    · rw [hcache] at h
      obtain ⟨_, hreset, rfl⟩ := ok_of_map h
      refine ⟨rfl, fun _ => ?_⟩
      rw [← hmiddle.disk] at hsound
      rw [← hmiddle.disk, ← hmiddle.here] at hexists
      rcases reset_cases hsound directory compilerVersion with
        ⟨e, _, hfailed, -⟩ | ⟨emptied, -, hthins, hgone, hok, hsaved⟩
      · rw [hfailed] at hreset
        cases hreset
      · rw [hafter, hsaved]
        obtain ⟨⟨place, node⟩, hfind⟩ := exists_ok_of_isOk hexists
        obtain ⟨time, hfound⟩ := find_of_find_join hne CacheIndex.isName_fileName.2.2.1 hfind
        exact emptied_save hfound hthins (hgone hfound) hok

end Opening

end Host
end ComponentCompiler
