import ComponentCompiler.Proofs.Cache.Confinement
import ComponentCompiler.Proofs.Cache.Sessions

/-!
# A cache agrees with its directory

A cache keeps its index in memory and saves it after each module that it stores. As long as no call
fails and nobody else writes the index, the index in memory is the one that is read in the
directory, or it is empty and there is none to be read (`Agrees`). Opening, storing and cleaning
preserve this, so a cache that is opened again is the same cache (`reopened_of_held`).

Cleaning removes the index with everything else in the directory. The empty path is the one
directory for which it does not: nothing can be listed there, while the index is found by its name
alone.
-/

namespace ComponentCompiler

open Disk

namespace Disk

variable {before after : Disk} {here place p : Place} {directory : Path}

/-- What is a directory after some entries were removed was one before. -/
theorem Thinned.isDirectory_before (h : Thinned before after place)
    (hp : after.IsDirectory p) : before.IsDirectory p := by
  rcases h.nodes p with halike | ⟨-, hgone⟩
  · exact halike.isDirectory_iff.mp hp
  · obtain ⟨time, hnode⟩ := hp
    rw [hgone] at hnode
    cases hnode

/-- A path that leads to a directory after some entries were removed did so before. -/
theorem Thinned.leads_before (h : Thinned before after place)
    (hleads : Leads after here directory) :
    Leads before here directory where
  clean := hleads.clean
  way q hq := h.isDirectory_before (hleads.way q hq)
  directory := h.isDirectory_before hleads.directory

end Disk

namespace Host

variable {σ : Type} [Files (StateM σ)] [Journal (StateM σ)] [Host σ]
variable {s before after : σ} {directory root : Path} {version : String} {cache : Cache}
  {index : CacheIndex} {files : Dependencies} {content : String}

section Answers

theorem Same.isFresh_eq (h : Same before after) (cache : Cache) (file : Path) :
    (run after (cache.isFresh file)).1 = (run before (cache.isFresh file)).1 := by
  rw [run_isFresh, run_isFresh]
  simp only [h.fingerprintOf_eq]

theorem Same.served_eq (h : Same before after) (cache : Cache) (file : Path) :
    (run after (cache.get? file)).1 = (run before (cache.get? file)).1 := by
  rw [run_get?, run_get?, h.isFresh_eq, h.disk, h.here]

theorem Same.status_eq (h : Same before after) (cache : Cache) :
    (run after cache.status).1 = (run before cache.status).1 := by
  rw [run_status, run_status]
  simp only [h.isFresh_eq]

end Answers

section Saving

/-- A saved index is read again as it was. -/
theorem indexIn_of_save (hformed : index.WellFormed)
    (hok : (run s (index.save directory)).1.isOk) :
    indexIn (run s (index.save directory)).2 directory = some index := by
  obtain ⟨hwritten, hafter⟩ := written_of_save hok
  obtain ⟨now, hfind⟩ := find_writeText hwritten
  rw [← hafter] at hfind
  rw [indexIn, readText_of_find hfind, Except.toOption, Option.bind_some]
  exact CacheIndex.read?_document hformed

end Saving

section Agreement

/-- Nothing is found where the index of a directory would be. -/
def Unsaved (s : σ) (directory : Path) : Prop :=
  ((disk s).find (here s) (directory.join CacheIndex.fileName)).isOk = false

/-- Once a directory was emptied there is no index in it. -/
theorem unsaved_of_clear {store : ModuleStore} (hsound : (disk s).Sound)
    (hne : store.directory.text ≠ "") (hok : (run s store.clear).1.isOk) :
    Unsaved (run s store.clear).2 store.directory := by
  obtain ⟨hthins, hgone⟩ := thins_clear hsound store
  rw [Unsaved]
  cases hfind : (disk (run s store.clear).2).find (here (run s store.clear).2)
      (store.directory.join CacheIndex.fileName) with
  | error e => rfl
  | ok found =>
    -- An index would stand in a directory that was there before, and that has been emptied.
    obtain ⟨place, node⟩ := found
    rw [hthins.here] at hfind
    obtain ⟨time, hdirectory⟩ := find_of_find_join hne (by decide) hfind
    obtain ⟨time', hbefore⟩ := (hthins.disk.leads_before (leads_of_find hdirectory)).find hne
    have hbelow : Below (spot (here s) store.directory)
        (spot (here s) store.directory ++ CacheIndex.names) := below_append (by decide) _
    obtain ⟨hplace, hnode⟩ := find_eq_ok hfind
    rw [hplace, CacheIndex.spot_fileName, hgone hok hbefore _ hbelow] at hnode
    cases hnode

/-- The index in memory is the one in the directory of the cache, or it is empty and there is none
in the directory. -/
structure Agrees (root directory : Path) (version : String) (cache : Cache) (s : σ) : Prop where
  opened : Opened root directory version cache
  compiler : cache.compilerVersion = version
  sound : (disk s).Sound
  index : indexIn s directory = some cache.index ∨
    Unsaved s directory ∧ cache.index = CacheIndex.empty version

/-- Others may do anything that leaves the index of a directory alone. -/
structure Untouched (before after : σ) (directory : Path) : Prop where
  sound : (disk before).Sound → (disk after).Sound
  found : ((disk after).find (here after) (directory.join CacheIndex.fileName)).isOk =
    ((disk before).find (here before) (directory.join CacheIndex.fileName)).isOk
  document : (disk after).readText (here after) (directory.join CacheIndex.fileName) =
    (disk before).readText (here before) (directory.join CacheIndex.fileName)

theorem Same.untouched (h : Same before after) (directory : Path) :
    Untouched before after directory where
  sound hsound := h.disk ▸ hsound
  found := by rw [h.disk, h.here]
  document := by rw [h.disk, h.here]

/-- Opening a cache, whatever was in the directory. -/
theorem agrees_of_openAt (hsound : (disk s).Sound)
    (h : (run s (Cache.openAt root directory version)).1 = .ok cache) :
    Agrees root directory version cache (run s (Cache.openAt root directory version)).2 := by
  have hopened := opened_of_openAt h
  rcases run_openAt_cases s root directory version with
    ⟨found, hread, -, hcache, hsame⟩ |
      ⟨-, ⟨habsent, hcache, hsame⟩ | ⟨-, middle, hmiddle, hcache, hafter⟩⟩
  · rw [hcache] at h
    cases h
    refine ⟨hopened, rfl, hsame.disk ▸ hsound, .inl ?_⟩
    rw [hsame.indexIn_eq, hread]
  · rw [hcache] at h
    cases h
    refine ⟨hopened, rfl, hsame.disk ▸ hsound, .inr ⟨?_, rfl⟩⟩
    rw [Unsaved, hsame.disk, hsame.here, habsent]
  · rw [hcache] at h
    obtain ⟨_, hreset, rfl⟩ := ok_of_map h
    rw [hafter]
    have hmiddleSound : (disk middle).Sound := hmiddle.disk ▸ hsound
    rcases reset_cases hmiddleSound directory version with
      ⟨e, _, hfailed, -⟩ | ⟨cleared, -, hthins, -, hok, hcleared⟩
    · rw [hfailed] at hreset
      cases hreset
    · rw [hcleared]
      refine ⟨hopened, rfl, ?_, .inl ?_⟩
      · exact (stores_save cleared _ directory).sound (hthins.disk.sound hmiddleSound)
      · exact indexIn_of_save (CacheIndex.wellFormed_empty version) hok

/-- Storing a module, whatever its key: its index is written after its text. -/
theorem Agrees.put (h : Agrees root directory version cache s)
    (hok : (run s (cache.put files content)).1.1.isOk) :
    Agrees root directory version (run s (cache.put files content)).1.2
      (run s (cache.put files content)).2 := by
  obtain ⟨started, ready, hfiled, hcache⟩ := filed_of_put hok
  have hread := hfiled.indexIn (wellFormed_stamped h.opened.formed ready files)
  rw [h.opened.directory] at hread
  rw [hcache]
  exact ⟨h.opened.stamped ready files, h.compiler,
    (spares_put s cache files content).sound h.sound, .inl hread⟩

/-- Emptying the directory. -/
theorem Agrees.clean (h : Agrees root directory version cache s) (hne : directory.text ≠ "")
    (hok : (run s cache.clean).1.1.isOk) :
    Agrees root directory version (run s cache.clean).1.2 (run s cache.clean).2 := by
  have hdirectory : cache.store.directory = directory := h.opened.directory
  rw [Cache.clean, run_bind] at hok ⊢
  cases hclear : (run s cache.store.clear).1 with
  | error e =>
    rw [hclear] at hok
    cases hok
  | ok removed =>
    have hcleared : (run s cache.store.clear).1.isOk := by
      rw [hclear]
      rfl
    have hunsaved := unsaved_of_clear h.sound (hdirectory ▸ hne) hcleared
    have hsound := (thins_clear h.sound cache.store).1.disk.sound h.sound
    rw [hdirectory] at hunsaved
    dsimp only
    rw [run_pure, h.compiler]
    exact ⟨⟨h.opened.root, hdirectory, rfl, CacheIndex.wellFormed_empty version⟩, rfl, hsound,
      .inr ⟨hunsaved, rfl⟩⟩

theorem Agrees.untouched (h : Agrees root directory version cache before)
    (huntouched : Untouched before after directory) :
    Agrees root directory version cache after where
  opened := h.opened
  compiler := h.compiler
  sound := huntouched.sound h.sound
  index := by
    rw [indexIn, huntouched.document, Unsaved, huntouched.found]
    exact h.index

/-- Where nothing is found at the place of the index, a cache is opened with an empty one. -/
theorem run_openAt_of_unsaved (h : Unsaved s directory) :
    (run s (Cache.openAt root directory version)).1 =
        .ok ⟨root, ⟨directory⟩, version, CacheIndex.empty version⟩ ∧
      Same s (run s (Cache.openAt root directory version)).2 := by
  rw [Unsaved] at h
  rcases run_openAt_cases s root directory version with
    ⟨index, hread, -⟩ | ⟨-, ⟨-, hcache, hsame⟩ | ⟨hexists, -⟩⟩
  · have hexists := isOk_find_of_indexIn hread
    rw [h] at hexists
    cases hexists
  · exact ⟨hcache, hsame⟩
  · rw [h] at hexists
    cases hexists

/-- A cache that agrees with its directory is opened again as it is, and nothing changes. -/
theorem Agrees.reopened (h : Agrees root directory version cache s) :
    (run s (Cache.openAt root directory version)).1 = .ok cache ∧
      Same s (run s (Cache.openAt root directory version)).2 := by
  have hcache : cache = ⟨root, ⟨directory⟩, version, cache.index⟩ := by
    obtain ⟨cacheRoot, ⟨cacheDirectory⟩, cacheVersion, index⟩ := cache
    obtain ⟨rfl, rfl, -⟩ := h.opened
    obtain rfl := h.compiler
    rfl
  rw [hcache]
  rcases h.index with hread | ⟨hunsaved, hempty⟩
  · exact run_openAt_of_indexIn hread
      (serves_iff.mpr ⟨h.opened.formed.version, h.opened.version⟩)
  · rw [hempty]
    exact run_openAt_of_unsaved hunsaved

end Agreement

section Runs

/-- A cache since it was opened in a directory, and the state that it is in: modules were stored in
it and it was emptied, any number of times and without an error. In between others did anything but
touch the index; asking the cache is of this kind too. -/
inductive Session (root directory : Path) (version : String) : Cache → σ → Prop
  | opened {s : σ} {cache : Cache} (sound : (disk s).Sound)
      (ok : (run s (Cache.openAt root directory version)).1 = .ok cache) :
      Session root directory version cache (run s (Cache.openAt root directory version)).2
  | put {cache : Cache} {s : σ} (session : Session root directory version cache s)
      (files : Dependencies) (content : String)
      (ok : (run s (cache.put files content)).1.1.isOk) :
      Session root directory version (run s (cache.put files content)).1.2
        (run s (cache.put files content)).2
  | clean {cache : Cache} {s : σ} (session : Session root directory version cache s)
      (ok : (run s cache.clean).1.1.isOk) :
      Session root directory version (run s cache.clean).1.2 (run s cache.clean).2
  | meanwhile {cache : Cache} {s after : σ} (session : Session root directory version cache s)
      (untouched : Untouched s after directory) : Session root directory version cache after

theorem Session.agrees (h : Session root directory version cache s) (hne : directory.text ≠ "") :
    Agrees root directory version cache s := by
  induction h with
  | opened sound ok => exact agrees_of_openAt sound ok
  | put _ files content ok ih => exact ih.put ok
  | clean _ ok ih => exact ih.clean hne ok
  | meanwhile _ untouched ih => exact ih.untouched untouched

/-- In a session, what is read of the index in the directory is the index in memory, unless there is
none and that is empty. So a cache that is opened again is the same cache and answers the same. -/
theorem reopened_of_session (hne : directory.text ≠ "")
    (h : Session root directory version cache s) :
    let again := run s (Cache.openAt root directory version)
    ((run s (CacheIndex.load directory)).1 = some cache.index ∨
        (run s (Files.pathExists (directory.join CacheIndex.fileName))).1 = false ∧
          cache.index.entries = []) ∧
      again.1 = .ok cache ∧ Same s again.2 ∧
      (∀ file, (run again.2 (cache.isFresh file)).1 = (run s (cache.isFresh file)).1 ∧
        (run again.2 (cache.get? file)).1 = (run s (cache.get? file)).1) ∧
      (run again.2 cache.status).1 = (run s cache.status).1 := by
  have hagrees := h.agrees hne
  obtain ⟨hreopened, hsame⟩ := hagrees.reopened
  refine ⟨?_, hreopened, hsame,
    fun file => ⟨hsame.isFresh_eq cache file, hsame.served_eq cache file⟩, hsame.status_eq cache⟩
  rcases hagrees.index with hread | ⟨hunsaved, hempty⟩
  · left
    rw [(run_load s directory).1, hread]
  · right
    rw [run_pathExists, hempty]
    exact ⟨hunsaved, rfl⟩

theorem eq_ok_of_isOk {ε α : Type} [Inhabited α] {result : Except ε α} (h : result.isOk) :
    result = .ok (result.toOption.getD default) := by
  cases result with
  | error e => cases h
  | ok a => rfl

/-- The cache of the project, emptied after a module was stored in it. -/
def emptiedOnce : (Except CacheError Nat × Cache) × Machine :=
  run (storedFor "1" "A" unbuilt).2 (storedFor "1" "A" unbuilt).1.2.clean

/-- The cache of the project in which a module was stored, and after it was emptied another. -/
def storedTwice : (Except CacheError Unit × Cache) × Machine :=
  run emptiedOnce.2 (emptiedOnce.1.2.put ⟨⟨"/p/App.vue"⟩, none, none⟩ "B")

theorem session_storedTwice : Session ⟨"/p"⟩ ⟨"/c"⟩ "1" storedTwice.1.2 storedTwice.2 := by
  have hopened : Session ⟨"/p"⟩ ⟨"/c"⟩ "1" ((openedFor "1" unbuilt).1.toOption.getD default)
      (openedFor "1" unbuilt).2 :=
    .opened (sound_of_entries (by decide)) (eq_ok_of_isOk (by decide +kernel))
  have hstored : (storedFor "1" "A" unbuilt).1.1.isOk := by decide +kernel
  have hcleaned : emptiedOnce.1.1.isOk := by decide +kernel
  have hagain : storedTwice.1.1.isOk := by decide +kernel
  -- The names are opened before a step is applied, as nothing is to be evaluated to match it.
  rw [storedFor] at hstored
  have hfirst := hopened.put ⟨⟨"/p/App.vue"⟩, none, none⟩ "A" hstored
  rw [← storedFor] at hfirst
  rw [emptiedOnce] at hcleaned
  have hemptied := hfirst.clean hcleaned
  rw [← emptiedOnce] at hemptied
  rw [storedTwice] at hagain ⊢
  exact hemptied.put ⟨⟨"/p/App.vue"⟩, none, none⟩ "B" hagain

/-- Opened again, the cache of the project serves the module that was stored last. -/
theorem reopened_of_two_modules :
    let again := run storedTwice.2 (Cache.openAt ⟨"/p"⟩ ⟨"/c"⟩ "1")
    again.1 = .ok storedTwice.1.2 ∧
      (run again.2 (storedTwice.1.2.get? ⟨"/p/App.vue"⟩)).1 = some "B" := by
  obtain ⟨-, hagain, -, hanswers, -⟩ := reopened_of_session (by decide) session_storedTwice
  refine ⟨hagain, (hanswers _).2.trans ?_⟩
  decide +kernel

/-- The empty path names no directory that could be emptied, but an index is found by its name
alone: once the cache is emptied, the index in memory has no entries and the one that is read has
one. -/
theorem load_ne_index_of_empty_path :
    let opened := run ({} : Machine) (Cache.openAt ⟨"/p"⟩ ⟨""⟩ "1")
    let stored := run opened.2
      ((opened.1.toOption.getD default).put ⟨⟨"/p/App.vue"⟩, none, none⟩ "A")
    let emptied := run stored.2 stored.1.2.clean
    opened.1.isOk ∧ stored.1.1.isOk ∧ emptied.1.1.isOk ∧
      (run emptied.2 (CacheIndex.load ⟨""⟩)).1.map (·.entries.map Prod.fst) = some ["App.vue"] ∧
      ¬((run emptied.2 (CacheIndex.load ⟨""⟩)).1 = some emptied.1.2.index ∨
        (run emptied.2 (Files.pathExists ((⟨""⟩ : Path).join CacheIndex.fileName))).1 = false ∧
          emptied.1.2.index.entries = []) := by
  decide +kernel

end Runs

end Host
end ComponentCompiler
