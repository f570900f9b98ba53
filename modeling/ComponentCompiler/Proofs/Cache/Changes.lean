import ComponentCompiler.Proofs.Cache.Opening

/-!
# What the calls of a cache change

A directory is seen as what its files hold. Every call of a cache either leaves nothing new there
(`Fewer`), or puts a text into one file and leaves the others (`Wrote`). What holds of a cache and
its directory, however the calls come out, follows from the changes of each: storing
(`put_changes`), cleaning (`clean_changes`) and opening (`openAt_changes`).
-/

namespace ComponentCompiler

open Disk

namespace Host

variable {σ : Type} [Files (StateM σ)] [Journal (StateM σ)] [Host σ]
variable {s before middle after : σ} {directory : Path} {names : List String} {text : String}

/-- What the file at some names in a directory holds, if there is one. -/
def heldAt (s : σ) (directory : Path) (names : List String) : Option Content :=
  (disk s).contentAt (spot (here s) directory ++ names)

section Changes

/-- The directory is still reached, and its files hold what they held as far as they are still
there. -/
structure Fewer (before after : σ) (directory : Path) : Prop where
  sound : (disk before).Sound → (disk after).Sound
  reached : Reached (disk before) (here before) directory →
    Reached (disk after) (here before) directory
  held : ∀ names content, heldAt after directory names = some content →
    heldAt before directory names = some content
  here : here after = here before

/-- The file at some names in the directory holds a text, the others hold what they held. -/
structure Wrote (before after : σ) (directory : Path) (names : List String) (text : String) :
    Prop where
  sound : (disk before).Sound → (disk after).Sound
  reached : Reached (disk before) (here before) directory →
    Reached (disk after) (here before) directory
  held : ∀ other, heldAt after directory other =
    if other = names then some (.text text) else heldAt before directory other
  here : here after = here before

theorem Thins.fewer (h : Thins before after (spot (Host.here before) directory)) :
    Fewer before after directory where
  here := h.here
  sound := h.disk.sound
  reached hreached := hreached.keep fun _ hq => h.disk.isDirectory hq
  held names content hheld := by
    rw [heldAt, h.here] at hheld
    exact h.disk.contentAt hheld

theorem Kept.fewer (h : Kept before after) : Fewer before after directory where
  here := h.here
  sound := h.disk.sound
  reached hreached := hreached.keep fun q _ => (h.disk.nodes q).isDirectory
  held names content hheld := by
    rw [heldAt, h.here, (h.disk.nodes _).contentAt_eq] at hheld
    exact hheld

theorem Same.fewer (h : Same before after) : Fewer before after directory := h.kept.fewer

theorem Fewer.trans (h : Fewer before middle directory) (h' : Fewer middle after directory) :
    Fewer before after directory where
  here := h'.here.trans h.here
  sound hsound := h'.sound (h.sound hsound)
  reached hreached := by
    have hmiddle := h.reached hreached
    rw [← h.here] at hmiddle ⊢
    exact h'.reached hmiddle
  held names content hheld := h.held names content (h'.held names content hheld)

/-- A text that was to be put into a file of the directory is there, or nothing is new. -/
theorem Stores.cases {ε α : Type} {result : Except ε α}
    (h : Stores before (spot (Host.here before) directory ++ names) text result after) :
    (∃ a, result = .ok a ∧ Wrote before after directory names text) ∨
      ∃ e, result = .error e ∧ Fewer before after directory := by
  cases result with
  | error e => exact .inr ⟨e, rfl, Kept.fewer ⟨h.failed rfl, h.here⟩⟩
  | ok a =>
    have hrewritten := h.done rfl
    refine .inl ⟨a, rfl, hrewritten.sound,
      fun hreached => hreached.keep fun q _ => hrewritten.isDirectory, fun other => ?_, h.here⟩
    rw [heldAt, h.here]
    split
    · rename_i hother
      obtain ⟨time, hnode⟩ := hrewritten.node
      rw [hother, contentAt, hnode]
      rfl
    · rename_i hother
      exact (hrewritten.others _ fun heq => hother (List.append_cancel_left heq)).contentAt_eq

end Changes

section Index

/-- An index that is read in the directory is held by the file of its name. -/
theorem heldAt_of_indexIn {index : CacheIndex} (h : indexIn s directory = some index) :
    ∃ document, heldAt s directory CacheIndex.names = some (.text document) ∧
      Json.read? document = some index := by
  obtain ⟨document, hdocument, hread⟩ := Option.bind_eq_some_iff.mp h
  refine ⟨document, ?_, hread⟩
  rw [heldAt, ← CacheIndex.spot_fileName]
  exact contentAt_of_readText (ok_of_toOption hdocument)

theorem heldAt_of_find_error {name : String} (hreached : Reached (disk s) (here s) directory)
    (hname : IsName name)
    (h : ((disk s).find (here s) (directory.join ⟨name⟩)).isOk = false) :
    heldAt s directory [name] = none := by
  rw [hreached.leads.find_join hname] at h
  rw [heldAt, contentAt]
  cases hnode : (disk s).node? (spot (here s) directory ++ [name]) with
  | none => rfl
  | some node =>
    rw [hnode] at h
    cases h

end Index

section Calls

/-- Storing a module either changes nothing but directories on the way, or writes its text, puts its
fingerprint into the index, and then may fail to save that. -/
theorem put_changes (s : σ) (cache : Cache) (files : Dependencies) (content : String) :
    let outcome := run s (cache.put files content)
    outcome.1.2 = cache ∧ Fewer s outcome.2 cache.directory ∨
      ∃ written ready, Wrote s written cache.directory
          (ModuleStore.names (cache.keyOf files.component)) content ∧
        Same written ready ∧ outcome.1.2 = stamped ready cache files ∧
        (Fewer ready outcome.2 cache.directory ∨
          Wrote ready outcome.2 cache.directory CacheIndex.names outcome.1.2.index.document) := by
  dsimp only
  rcases (stores_textWritten s cache files content).cases with
    ⟨path, hwritten, hwrote⟩ | ⟨e, hwritten, hfewer⟩
  · obtain ⟨ready, hsame, hput⟩ := run_put_of_ok hwritten
    rw [hput, run_stamp]
    dsimp only
    refine .inr ⟨_, ready, hwrote, hsame, rfl, ?_⟩
    have hsave := stores_save ready (stamped ready cache files).index cache.directory
    rcases hsave.cases with ⟨_, -, hsaved⟩ | ⟨_, -, hfewer⟩
    · exact .inr hsaved
    · exact .inl hfewer
  · rw [run_put_of_error hwritten]
    dsimp only
    exact .inl ⟨rfl, hfewer⟩

/-- Cleaning only removes files, and the index is emptied if it comes to an end. -/
theorem clean_changes (hsound : (disk s).Sound) (cache : Cache) :
    let outcome := run s cache.clean
    Fewer s outcome.2 cache.directory ∧
      (outcome.1.2 = cache ∨
        outcome.1.2 = { cache with index := CacheIndex.empty cache.compilerVersion }) := by
  obtain ⟨hthins, -⟩ := thins_clear hsound cache.store
  dsimp only
  rw [Cache.clean, run_bind]
  cases (run s cache.store.clear).1 with
  | error e => exact ⟨hthins.fewer, .inl rfl⟩
  | ok removed => exact ⟨hthins.fewer, .inr rfl⟩

/-- Opening a cache finds an index that serves, or starts with an empty one: where no file has the
name of the index nothing changes, and where one has it files are removed, and then the empty index
is saved. It may fail before that. -/
theorem openAt_changes (hsound : (disk s).Sound) (root directory : Path) (version : String) :
    let outcome := run s (Cache.openAt root directory version)
    let empty : Cache := ⟨root, ⟨directory⟩, version, .empty version⟩
    (∃ index, indexIn s directory = some index ∧ index.serves version ∧
        outcome.1 = .ok ⟨root, ⟨directory⟩, version, index⟩ ∧ Same s outcome.2) ∨
      ((disk s).find (here s) (directory.join CacheIndex.fileName)).isOk = false ∧
        outcome.1 = .ok empty ∧ Same s outcome.2 ∨
      (∃ cleared, Fewer s cleared directory ∧ outcome.1 = .ok empty ∧
        Wrote cleared outcome.2 directory CacheIndex.names (CacheIndex.empty version).document) ∨
      ∃ e, outcome.1 = .error e ∧ Fewer s outcome.2 directory := by
  dsimp only
  rcases run_openAt_cases s root directory version with
    hserved | ⟨-, hfresh | ⟨-, middle, hsame, hcache, hafter⟩⟩
  · exact .inl hserved
  · exact .inr (.inl hfresh)
  · have hmiddle : Fewer s middle directory := hsame.fewer
    rw [hcache, hafter]
    rcases reset_cases (hmiddle.sound hsound) directory version with
      ⟨e, cleared, hfailed, hthins, hkept⟩ | ⟨cleared, hdone, hthins, -, hok, hreset⟩
    · rw [hfailed]
      exact .inr (.inr (.inr ⟨e, rfl, (hmiddle.trans hthins.fewer).trans hkept.fewer⟩))
    · rw [hdone, hreset]
      have hsave := stores_save cleared (CacheIndex.empty version) directory
      rcases hsave.cases with ⟨_, -, hsaved⟩ | ⟨e, hfailed, -⟩
      · exact .inr (.inr (.inl ⟨cleared, hmiddle.trans hthins.fewer, rfl, hsaved⟩))
      · rw [hfailed] at hok
        cases hok

end Calls

end Host
end ComponentCompiler
