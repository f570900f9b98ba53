import ComponentCompiler.Proofs.Cache.Changes
import ComponentCompiler.Proofs.Cache.Readback

/-!
# Sessions with different compilers

A directory is used by one session after the other, each with a cache that was opened for some
version of the compiler. Between two sessions nothing is kept but what is on the disk. The invariant
`Tidy` says that what stands at the names of the keys of an index, in memory or on the disk, was
stored by a session with the version of that index. Each call preserves it, so no session is served
what a session with another version stored (`mem_of_sessions`).
-/

namespace ComponentCompiler

open Disk

namespace Host

variable {σ : Type} [Files (StateM σ)] [Journal (StateM σ)] [Host σ]
variable {s before middle after : σ} {directory root : Path} {names : List String}
  {text content version key : String} {cache : Cache} {files : Dependencies}
  {entries : List (String × Fingerprint)} {log : List (String × String)}
  {current : Option (String × Cache)}

section Owned

/-- What stands at the names of the given keys was stored by sessions with one version. -/
def Owned (log : List (String × String)) (s : σ) (directory : Path) (version : String)
    (entries : List (String × Fingerprint)) : Prop :=
  ∀ key, (Keyed.get? key entries).isSome → ModuleStore.names key ≠ CacheIndex.names ∧
    ∀ content, heldAt s directory (ModuleStore.names key) = some content →
      ∃ text, content = .text text ∧ (version, text) ∈ log

theorem Owned.nil (log : List (String × String)) (s : σ) (directory : Path) (version : String) :
    Owned log s directory version [] := nofun

theorem Owned.fewer (h : Owned log before directory version entries)
    (hfewer : Fewer before after directory) : Owned log after directory version entries :=
  fun key hkey => ⟨(h key hkey).1,
    fun content hcontent => (h key hkey).2 content (hfewer.held _ content hcontent)⟩

theorem Owned.subset {fewer : List (String × Fingerprint)}
    (h : Owned log s directory version entries)
    (hsubset : ∀ key, (Keyed.get? key fewer).isSome → (Keyed.get? key entries).isSome) :
    Owned log s directory version fewer :=
  fun key hkey => h key (hsubset key hkey)

theorem Owned.cons (h : Owned log s directory version entries) (entry : String × String) :
    Owned (entry :: log) s directory version entries := by
  intro key hkey
  obtain ⟨hnames, hheld⟩ := h key hkey
  refine ⟨hnames, fun content hcontent => ?_⟩
  obtain ⟨text, rfl, hmem⟩ := hheld content hcontent
  exact ⟨text, rfl, List.mem_cons_of_mem _ hmem⟩

/-- A module that is stored by a session with the same version may share its file. -/
theorem Owned.module (h : Owned log before directory version entries)
    (hwrote : Wrote before after directory names content) :
    Owned ((version, content) :: log) after directory version entries := by
  intro key hkey
  obtain ⟨hnames, hheld⟩ := h.cons (version, content) key hkey
  refine ⟨hnames, fun found hfound => ?_⟩
  rw [hwrote.held] at hfound
  split at hfound
  · cases hfound
    exact ⟨content, rfl, List.mem_cons_self⟩
  · exact hheld found hfound

/-- The document of an index is not the file of any module. -/
theorem Owned.document (h : Owned log before directory version entries)
    (hwrote : Wrote before after directory CacheIndex.names text) :
    Owned log after directory version entries := by
  intro key hkey
  obtain ⟨hnames, hheld⟩ := h key hkey
  refine ⟨hnames, fun found hfound => ?_⟩
  rw [hwrote.held, if_neg hnames] at hfound
  exact hheld found hfound

end Owned

section Tidy

/-- What holds of the directory and of the current session, if there is one. -/
structure Tidy (directory : Path) (log : List (String × String))
    (current : Option (String × Cache)) (s : σ) : Prop where
  sound : (disk s).Sound
  reached : Reached (disk s) (here s) directory
  /-- An index on the disk is for the version of the session, and owns the files of its keys. -/
  document : ∀ (document : String) (index : CacheIndex),
    heldAt s directory CacheIndex.names = some (.text document) →
      Json.read? document = some index →
      Owned log s directory index.compilerVersion index.entries ∧
        ∀ version cache, current = some (version, cache) → index.compilerVersion = version
  /-- So does the index in memory. -/
  session : ∀ version cache, current = some (version, cache) → cache.directory = directory ∧
    cache.compilerVersion = version ∧ cache.index.compilerVersion = version ∧
      Owned log s directory version cache.index.entries

theorem Tidy.fewer (h : Tidy directory log current before)
    (hfewer : Fewer before after directory) : Tidy directory log current after where
  sound := hfewer.sound h.sound
  reached := by
    rw [hfewer.here]
    exact hfewer.reached h.reached
  document document index hheld hread := by
    obtain ⟨howned, hversion⟩ := h.document document index (hfewer.held _ _ hheld) hread
    exact ⟨howned.fewer hfewer, hversion⟩
  session version cache hcurrent := by
    obtain ⟨hdirectory, hcompiler, hindex, howned⟩ := h.session version cache hcurrent
    exact ⟨hdirectory, hcompiler, hindex, howned.fewer hfewer⟩

theorem Tidy.cons (h : Tidy directory log current s) (entry : String × String) :
    Tidy directory (entry :: log) current s where
  sound := h.sound
  reached := h.reached
  document document index hheld hread := by
    obtain ⟨howned, hversion⟩ := h.document document index hheld hread
    exact ⟨howned.cons entry, hversion⟩
  session version cache hcurrent := by
    obtain ⟨hdirectory, hcompiler, hindex, howned⟩ := h.session version cache hcurrent
    exact ⟨hdirectory, hcompiler, hindex, howned.cons entry⟩

/-- A session that ended leaves nothing but what is on the disk. -/
theorem Tidy.ended (h : Tidy directory log current s) : Tidy directory log none s where
  sound := h.sound
  reached := h.reached
  document document index hheld hread := ⟨(h.document document index hheld hread).1, nofun⟩
  session := nofun

/-- The text of a module is written, and its fingerprint is in the index in memory. -/
theorem Tidy.module (h : Tidy directory log (some (version, cache)) before)
    (hnames : ModuleStore.names (cache.keyOf files.component) ≠ CacheIndex.names)
    (hwrote : Wrote before after directory (ModuleStore.names (cache.keyOf files.component))
      content) (middle : σ) :
    Tidy directory ((version, content) :: log)
      (some (version, stamped middle cache files)) after where
  sound := hwrote.sound h.sound
  reached := by
    rw [hwrote.here]
    exact hwrote.reached h.reached
  document document index hheld hread := by
    rw [hwrote.held, if_neg hnames.symm] at hheld
    obtain ⟨howned, hversion⟩ := h.document document index hheld hread
    obtain rfl := hversion version cache rfl
    refine ⟨howned.module hwrote, ?_⟩
    rintro _ _ ⟨⟩
    rfl
  session := by
    rintro _ _ ⟨⟩
    obtain ⟨hdirectory, hcompiler, hindex, howned⟩ := h.session version cache rfl
    refine ⟨hdirectory, hcompiler, hindex, fun key hkey => ?_⟩
    rw [stamped, Keyed.get?_insert] at hkey
    split at hkey
    · rename_i hsame
      rw [hsame]
      refine ⟨hnames, fun found hfound => ?_⟩
      rw [hwrote.held, if_pos rfl] at hfound
      cases hfound
      exact ⟨content, rfl, List.mem_cons_self⟩
    · exact howned.module hwrote key hkey

/-- The index in memory is saved, whatever document was there. -/
theorem Tidy.saved (hsound : (disk before).Sound)
    (hreached : Reached (disk before) (here before) directory)
    (hdirectory : cache.directory = directory) (hcompiler : cache.compilerVersion = version)
    (hindex : cache.index.compilerVersion = version)
    (howned : Owned log before directory version cache.index.entries)
    (hwrote : Wrote before after directory CacheIndex.names cache.index.document) :
    Tidy directory log (some (version, cache)) after := by
  refine ⟨hwrote.sound hsound, ?_, fun document index hheld hread => ?_, ?_⟩
  · rw [hwrote.here]
    exact hwrote.reached hreached
  · rw [hwrote.held, if_pos rfl] at hheld
    cases hheld
    obtain ⟨hversion, hkeys⟩ := CacheIndex.of_read?_document hread
    rw [hversion, hindex]
    refine ⟨(howned.document hwrote).subset hkeys, ?_⟩
    rintro _ _ ⟨⟩
    rfl
  · rintro _ _ ⟨⟩
    exact ⟨hdirectory, hcompiler, hindex, howned.document hwrote⟩

/-- Storing a module. -/
theorem Tidy.put (h : Tidy directory log (some (version, cache)) s)
    (hnames : ModuleStore.names (cache.keyOf files.component) ≠ CacheIndex.names)
    (content : String) :
    Tidy directory ((version, content) :: log)
      (some (version, (run s (cache.put files content)).1.2))
      (run s (cache.put files content)).2 := by
  obtain ⟨hdirectory, -⟩ := h.session version cache rfl
  have hchanges := put_changes s cache files content
  rw [hdirectory] at hchanges
  rcases hchanges with ⟨hcache, hfewer⟩ | ⟨written, ready, hwrote, hsame, hcache, hsave⟩
  · rw [hcache]
    exact (h.cons (version, content)).fewer hfewer
  · rw [hcache] at hsave ⊢
    have hmodule := (h.module hnames hwrote ready).fewer hsame.fewer
    rcases hsave with hfewer | hsaved
    · exact hmodule.fewer hfewer
    · obtain ⟨hstore, hcompiler, hindex, howned⟩ := hmodule.session version _ rfl
      exact .saved hmodule.sound hmodule.reached hstore hcompiler hindex howned hsaved

/-- A session whose index was emptied. -/
theorem Tidy.emptied (h : Tidy directory log (some (version, cache)) s) :
    Tidy directory log
      (some (version, { cache with index := CacheIndex.empty cache.compilerVersion })) s where
  sound := h.sound
  reached := h.reached
  document document index hheld hread := by
    obtain ⟨howned, hversion⟩ := h.document document index hheld hread
    refine ⟨howned, ?_⟩
    rintro _ _ ⟨⟩
    exact hversion version cache rfl
  session := by
    rintro _ _ ⟨⟩
    obtain ⟨hdirectory, hcompiler, -⟩ := h.session version cache rfl
    exact ⟨hdirectory, hcompiler, hcompiler, .nil _ _ _ _⟩

/-- Emptying the directory. -/
theorem Tidy.clean (h : Tidy directory log (some (version, cache)) s) :
    Tidy directory log (some (version, (run s cache.clean).1.2)) (run s cache.clean).2 := by
  obtain ⟨hdirectory, -⟩ := h.session version cache rfl
  obtain ⟨hfewer, hcache⟩ := clean_changes h.sound cache
  rw [hdirectory] at hfewer
  have htidy := h.fewer hfewer
  rcases hcache with hcache | hcache
  · rw [hcache]
    exact htidy
  · rw [hcache]
    exact htidy.emptied

/-- Where there is no document, a session can start with an empty index. -/
theorem Tidy.fresh (h : Tidy directory log current s)
    (habsent : heldAt s directory CacheIndex.names = none) (root : Path) (version : String) :
    Tidy directory log (some (version, ⟨root, ⟨directory⟩, version, .empty version⟩)) s where
  sound := h.sound
  reached := h.reached
  document document index hheld := by
    rw [habsent] at hheld
    cases hheld
  session := by
    rintro _ _ ⟨⟩
    exact ⟨rfl, rfl, rfl, .nil _ _ _ _⟩

/-- Where there is an index for the version, a session can start with it. -/
theorem Tidy.loaded (h : Tidy directory log current s) {index : CacheIndex}
    (hread : indexIn s directory = some index) (hversion : index.compilerVersion = version)
    (root : Path) :
    Tidy directory log (some (version, ⟨root, ⟨directory⟩, version, index⟩)) s := by
  obtain ⟨text, hheld, hread⟩ := heldAt_of_indexIn hread
  refine ⟨h.sound, h.reached, fun document found hdocument hfound => ?_, ?_⟩
  · refine ⟨(h.document document found hdocument hfound).1, ?_⟩
    rintro _ _ ⟨⟩
    rw [hheld] at hdocument
    cases hdocument
    rw [hread] at hfound
    cases hfound
    exact hversion
  · rintro _ _ ⟨⟩
    refine ⟨rfl, rfl, hversion, ?_⟩
    rw [← hversion]
    exact (h.document text index hheld hread).1

/-- Opening a cache for any version, after which there is a session if that succeeds. -/
theorem Tidy.opened (h : Tidy directory log current s) (root : Path) (version : String) :
    Tidy directory log
      ((run s (Cache.openAt root directory version)).1.toOption.map (version, ·))
      (run s (Cache.openAt root directory version)).2 := by
  rcases openAt_changes h.sound root directory version with
    ⟨index, hread, hserves, hcache, hsame⟩ | ⟨habsent, hcache, hsame⟩ |
      ⟨cleared, hfewer, hcache, hsaved⟩ | ⟨e, hcache, hfewer⟩
  · rw [hcache]
    exact (h.loaded hread (serves_iff.mp hserves).2 root).fewer hsame.fewer
  · rw [hcache]
    have hnone := heldAt_of_find_error h.reached CacheIndex.isName_fileName habsent
    exact (h.fresh hnone root version).fewer hsame.fewer
  · rw [hcache]
    have hcleared := h.fewer hfewer
    exact .saved hcleared.sound hcleared.reached rfl rfl rfl (.nil _ _ _ _) hsaved
  · rw [hcache]
    exact h.ended.fewer hfewer

end Tidy

section Sessions

/-- Sessions in a directory that was empty, each with a cache that was opened for some version of
the compiler, and what was to be stored in them, the last one first. A session ends when the cache
is opened again. No module has the file of the index. Meanwhile others may do anything but write
into the directory or make it unreachable. -/
inductive Sessions (directory : Path) : List (String × String) → Option (String × Cache) → σ → Prop
  | start (s : σ) (sound : (disk s).Sound)
      (leads : Leads (disk s) (here s) directory)
      (empty : ∀ p, Below (spot (here s) directory) p → (disk s).node? p = none) :
      Sessions directory [] none s
  | opened {log : List (String × String)} {current : Option (String × Cache)} {s : σ}
      (sessions : Sessions directory log current s) (root : Path) (version : String) :
      Sessions directory log
        ((run s (Cache.openAt root directory version)).1.toOption.map (version, ·))
        (run s (Cache.openAt root directory version)).2
  | put {log : List (String × String)} {version : String} {cache : Cache} {s : σ}
      (sessions : Sessions directory log (some (version, cache)) s) (files : Dependencies)
      (content : String)
      (names : ModuleStore.names (cache.keyOf files.component) ≠ CacheIndex.names) :
      Sessions directory ((version, content) :: log)
        (some (version, (run s (cache.put files content)).1.2)) (run s (cache.put files content)).2
  | get {log : List (String × String)} {version : String} {cache : Cache} {s : σ}
      (sessions : Sessions directory log (some (version, cache)) s) (file : Path) :
      Sessions directory log (some (version, cache)) (run s (cache.get? file)).2
  | clean {log : List (String × String)} {version : String} {cache : Cache} {s : σ}
      (sessions : Sessions directory log (some (version, cache)) s) :
      Sessions directory log (some (version, (run s cache.clean).1.2)) (run s cache.clean).2
  | elsewhere {log : List (String × String)} {current : Option (String × Cache)} {s : σ}
      (sessions : Sessions directory log current s) (after : σ) (fewer : Fewer s after directory) :
      Sessions directory log current after

theorem Sessions.tidy (h : Sessions directory log current s) : Tidy directory log current s := by
  induction h with
  | start s sound leads empty =>
    refine ⟨sound, leads.reached empty, fun document index hheld => ?_, nofun⟩
    rw [heldAt, contentAt, empty _ (below_append (by decide) _)] at hheld
    cases hheld
  | opened _ root version ih => exact ih.opened root version
  | put _ files content names ih => exact ih.put names content
  | get _ file ih => exact ih.fewer (same_get? _ _ file).fewer
  | clean _ ih => exact ih.clean
  | elsewhere _ after fewer ih => exact ih.fewer fewer

/-- What a session is served was stored by a session with the same version. -/
theorem mem_of_sessions {file : Path} (h : Sessions directory log (some (version, cache)) s)
    (hget : (run s (cache.get? file)).1 = some text) : (version, text) ∈ log := by
  obtain ⟨hdirectory, -, -, howned⟩ := h.tidy.session version cache rfl
  obtain ⟨hfresh, hread⟩ := of_get?_eq_some hget
  have hkey : (Keyed.get? (cache.keyOf file) cache.index.entries).isSome := by
    rw [run_isFresh] at hfresh
    cases hentry : Keyed.get? (cache.keyOf file) cache.index.entries with
    | none =>
      rw [hentry] at hfresh
      cases hfresh
    | some _ => rfl
  have hheld : heldAt s directory (ModuleStore.names (cache.keyOf file)) = some (.text text) := by
    have hcontent := contentAt_of_readText hread
    rw [ModuleStore.spot_path, show cache.store.directory = directory from hdirectory] at hcontent
    exact hcontent
  obtain ⟨found, hfound, hmem⟩ := (howned _ hkey).2 _ hheld
  cases hfound
  exact hmem

/-- A cache is opened with the index in its directory only if that is for the same version of the
format and of the compiler; otherwise it starts empty, and a directory with a file of the name of
the index then holds nothing but an empty one. So over all sessions in a directory, what a session
is served was stored by a session with the same version. -/
theorem sessions_keep_versions_apart :
    (∀ {s : σ} {root directory : Path} {version : String} {cache : Cache},
      (disk s).Sound → directory.text ≠ "" →
        (run s (Cache.openAt root directory version)).1 = .ok cache →
          (∃ index, indexIn s directory = some index ∧ index.version = CacheIndex.formatVersion ∧
              index.compilerVersion = version ∧ cache.index = index ∧
              Same s (run s (Cache.openAt root directory version)).2) ∨
            (∀ index, indexIn s directory = some index →
                index.version = CacheIndex.formatVersion → index.compilerVersion ≠ version) ∧
              cache.index = CacheIndex.empty version ∧
              (((disk s).find (here s) (directory.join CacheIndex.fileName)).isOk →
                Emptied (run s (Cache.openAt root directory version)).2 directory version)) ∧
      ∀ {directory : Path} {log : List (String × String)} {version : String} {cache : Cache}
        {s : σ} {file : Path} {text : String},
        Sessions directory log (some (version, cache)) s →
          (run s (cache.get? file)).1 = some text → (version, text) ∈ log :=
  ⟨openAt_cases, mem_of_sessions⟩

/-- A project with one component, and an empty directory for its cache. -/
def unbuilt : Machine where
  disk := ⟨[(["p"], .directory ⟨1, 0⟩), (["p", "App.vue"], .file (.text "") ⟨10, 0⟩),
    (["c"], .directory ⟨1, 0⟩)]⟩

/-- The cache of the project is opened for a version of the compiler. -/
def openedFor (version : String) (machine : Machine) : Except CacheError Cache × Machine :=
  run machine (Cache.openAt ⟨"/p"⟩ ⟨"/c"⟩ version)

/-- The cache of a session in which a module was stored for the component. -/
def storedFor (version content : String) (machine : Machine) :
    (Except CacheError Unit × Cache) × Machine :=
  run (openedFor version machine).2 (((openedFor version machine).1.toOption.getD default).put
    ⟨⟨"/p/App.vue"⟩, none, none⟩ content)

/-- A session with the first version of the compiler. -/
def firstBuilt : Machine := (storedFor "1" "A" unbuilt).2

theorem sessions_unbuilt : Sessions ⟨"/c"⟩ [] none unbuilt := by
  refine .start unbuilt (sound_of_entries (by decide)) ?_
    fun _ => node?_eq_none_of_entries (by decide)
  have hfind : (disk unbuilt).find (here unbuilt) ⟨"/c"⟩ =
      .ok (["c"], .directory ⟨1, 0⟩) := by decide +kernel
  exact leads_of_find hfind

theorem sessions_storedFor (version content : String) {machine : Machine}
    (h : Sessions ⟨"/c"⟩ log current machine) (hok : (openedFor version machine).1.isOk)
    (hnames : ModuleStore.names (((openedFor version machine).1.toOption.getD default).keyOf
      ⟨"/p/App.vue"⟩) ≠ CacheIndex.names) :
    Sessions ⟨"/c"⟩ ((version, content) :: log)
      (some (version, (storedFor version content machine).1.2))
      (storedFor version content machine).2 := by
  have hopened : Sessions ⟨"/c"⟩ log
      ((openedFor version machine).1.toOption.map (version, ·)) (openedFor version machine).2 :=
    h.opened ⟨"/p"⟩ version
  rw [storedFor]
  generalize openedFor version machine = outcome at hok hnames hopened ⊢
  obtain ⟨result, after⟩ := outcome
  cases result with
  | error e => cases hok
  | ok cache =>
    dsimp only [Except.toOption, Option.map_some, Option.getD_some] at hnames hopened ⊢
    exact hopened.put ⟨⟨"/p/App.vue"⟩, none, none⟩ content hnames

/-- What the two sessions give: the caches are opened, no module has the names of the index, the
first session leaves an index of its version, and the second is served what it stored. -/
theorem served_in_second_session :
    ((openedFor "1" unbuilt).1.isOk ∧
      ModuleStore.names (((openedFor "1" unbuilt).1.toOption.getD default).keyOf
        ⟨"/p/App.vue"⟩) ≠ CacheIndex.names) ∧
      ((indexIn firstBuilt ⟨"/c"⟩).map CacheIndex.compilerVersion = some "1" ∧
        (run firstBuilt (Files.pathExists ((⟨"/c"⟩ : Path).join CacheIndex.fileName))).1 = true) ∧
      ((openedFor "2" firstBuilt).1.isOk ∧
        ModuleStore.names (((openedFor "2" firstBuilt).1.toOption.getD default).keyOf
          ⟨"/p/App.vue"⟩) ≠ CacheIndex.names) ∧
      (run (storedFor "2" "B" firstBuilt).2
        ((storedFor "2" "B" firstBuilt).1.2.get? ⟨"/p/App.vue"⟩)).1 = some "B" := by
  decide +kernel

/-- The second version finds the index of the first, empties the directory, and is served only what
it stored itself. -/
theorem sessions_keep_versions_apart_of_two :
    let second := storedFor "2" "B" firstBuilt
    (indexIn firstBuilt ⟨"/c"⟩).map CacheIndex.compilerVersion = some "1" ∧
      Emptied (openedFor "2" firstBuilt).2 ⟨"/c"⟩ "2" ∧
      (run second.2 (second.1.2.get? ⟨"/p/App.vue"⟩)).1 = some "B" ∧
        ("2", "B") ∈ [("2", "B"), ("1", "A")] := by
  obtain ⟨⟨hopened, hnames⟩, ⟨hversion, hexists⟩, ⟨hreopened, hnames'⟩, hget⟩ :=
    served_in_second_session
  have hfirst : Sessions ⟨"/c"⟩ [("1", "A")] (some ("1", (storedFor "1" "A" unbuilt).1.2))
      firstBuilt := sessions_storedFor "1" "A" sessions_unbuilt hopened hnames
  have hsecond := sessions_storedFor "2" "B" hfirst hreopened hnames'
  refine ⟨hversion, ?_, hget, sessions_keep_versions_apart.2 hsecond hget⟩
  obtain ⟨cache, hcache⟩ := exists_ok_of_isOk hreopened
  rcases sessions_keep_versions_apart.1 hfirst.tidy.sound (by decide) hcache with
    ⟨index, hindex, -, hcompiler, -⟩ | ⟨-, -, hemptied⟩
  · rw [hindex, Option.map_some, hcompiler] at hversion
    exact absurd hversion (by decide)
  · exact hemptied hexists

/-- The empty path names no directory that could be emptied, but a file can be found and written
through it: a cache that is opened there leaves every file but the index where it was. -/
theorem openAt_keeps_files_of_empty_path :
    let cluttered : Machine := { disk := ⟨[(["revue.json"], .file (.text "old") ⟨1, 0⟩),
      (["left"], .file (.text "x") ⟨1, 0⟩)]⟩ }
    let outcome := run cluttered (Cache.openAt ⟨"/"⟩ ⟨""⟩ "3")
    outcome.1.isOk ∧ (indexIn cluttered ⟨""⟩).isNone ∧
      (run cluttered (Files.pathExists ((⟨""⟩ : Path).join CacheIndex.fileName))).1 = true ∧
      outcome.2.disk.fileAt ["left"] = some (.text "x", ⟨1, 0⟩) := by
  decide +kernel

end Sessions

end Host
end ComponentCompiler
