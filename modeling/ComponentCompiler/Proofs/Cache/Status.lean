import ComponentCompiler.Proofs.Cache.Reopening

/-!
# What the status of a cache tells

The status goes from each key to the file that it stands for, and from that file to a key again. For
a key that was recorded for an absolute path this is the same key (`Known.keyOf_join`), so what is
told is about the fingerprint under it. A cache knows no other keys however it came about, also if
it was opened with an index that an earlier one saved (`Built.accounted`).

Being fresh is not the same as being served, as the status does not look for the text of the module:
the two agree exactly for modules that are stale or can be read (`status_of_built`).
-/

namespace ComponentCompiler

open Disk

/-- Every key of an index is what some absolute path is stored as. -/
def CacheIndex.StandsIn (index : CacheIndex) (root : Path) : Prop :=
  ∀ key, (Keyed.get? key index.entries).isSome →
    ∃ path : Path, path.isAbsolute ∧ root.stored path = key

theorem CacheIndex.standsIn_empty (version : String) (root : Path) :
    (CacheIndex.empty version).StandsIn root :=
  fun _ hkey => absurd hkey Bool.false_ne_true

namespace Host

variable {σ : Type} [Files (StateM σ)] [Journal (StateM σ)] [Host σ]
variable {s before after : σ} {root directory : Path} {version key content : String}
  {cache : Cache} {current : Option Cache} {files : Dependencies}

section Known

/-- A cache in a directory whose keys ascend and stand for absolute paths. -/
structure Known (root directory : Path) (cache : Cache) : Prop where
  ascending : Keyed.Ascending cache.index.entries
  stands : cache.index.StandsIn root
  root : cache.root = root
  directory : cache.directory = directory

/-- The file that a key stands for has that key. -/
theorem Known.keyOf_join (h : Known root directory cache) (hroot : root.isAbsolute)
    (hkey : (Keyed.get? key cache.index.entries).isSome) :
    cache.keyOf (root.join ⟨key⟩) = key := by
  obtain ⟨path, habsolute, rfl⟩ := h.stands key hkey
  rw [Cache.keyOf, h.root]
  exact Path.stored_join_stored hroot habsolute

theorem known_empty (root directory : Path) (version : String) :
    Known root directory ⟨root, ⟨directory⟩, version, .empty version⟩ :=
  ⟨List.Pairwise.nil, CacheIndex.standsIn_empty version root, rfl, rfl⟩

omit [Journal (StateM σ)] [Host σ] in
theorem Known.stamped (h : Known root directory cache) (habsolute : files.component.isAbsolute)
    (s : σ) : Known root directory (Host.stamped s cache files) where
  ascending := h.ascending.insert _ _
  stands key hkey := by
    rw [Host.stamped, Keyed.get?_insert] at hkey
    split at hkey
    · rename_i hsame
      refine ⟨files.component, habsolute, ?_⟩
      rw [hsame, Cache.keyOf, h.root]
    · exact h.stands key hkey
  root := h.root
  directory := h.directory

/-- A cache that was emptied knows no keys. -/
theorem Known.emptied (h : Known root directory cache) :
    Known root directory { cache with index := CacheIndex.empty cache.compilerVersion } :=
  ⟨List.Pairwise.nil, CacheIndex.standsIn_empty _ root, h.root, h.directory⟩

end Known

section Accounted

/-- The keys on the disk and in memory, if a cache is open, stand for absolute paths. -/
structure Accounted (root directory : Path) (current : Option Cache) (s : σ) : Prop where
  sound : (disk s).Sound
  document : ∀ (document : String) (index : CacheIndex),
    heldAt s directory CacheIndex.names = some (.text document) →
      Json.read? document = some index → index.StandsIn root
  known : ∀ cache, current = some cache → Known root directory cache

/-- What others do to a disk does not matter unless they write an index. -/
theorem Accounted.elsewhere (h : Accounted root directory current before)
    (hsound : (disk before).Sound → (disk after).Sound)
    (hdocument : ∀ document, heldAt after directory CacheIndex.names = some (.text document) →
      heldAt before directory CacheIndex.names = some (.text document)) :
    Accounted root directory current after where
  sound := hsound h.sound
  document document index hheld := h.document document index (hdocument document hheld)
  known := h.known

theorem Accounted.fewer (h : Accounted root directory current before)
    (hfewer : Fewer before after directory) : Accounted root directory current after :=
  h.elsewhere hfewer.sound fun _ => hfewer.held _ _

theorem Accounted.session (h : Accounted root directory current s)
    (hknown : Known root directory cache) : Accounted root directory (some cache) s where
  sound := h.sound
  document := h.document
  known := by
    rintro _ ⟨⟩
    exact hknown

theorem Accounted.ended (h : Accounted root directory current s) :
    Accounted root directory none s :=
  ⟨h.sound, h.document, nofun⟩

/-- The index of a cache is saved, whatever document was there. -/
theorem Accounted.saved (h : Accounted root directory (some cache) before)
    (hwrote : Wrote before after directory CacheIndex.names cache.index.document) :
    Accounted root directory (some cache) after where
  sound := hwrote.sound h.sound
  document document index hheld hread := by
    rw [hwrote.held, if_pos rfl] at hheld
    cases hheld
    obtain ⟨-, hkeys⟩ := CacheIndex.of_read?_document hread
    exact fun key hkey => (h.known cache rfl).stands key (hkeys key hkey)
  known := h.known

/-- The text of a module is written, and its fingerprint is in the index in memory. -/
theorem Accounted.module (h : Accounted root directory (some cache) before)
    (habsolute : files.component.isAbsolute)
    (hcontent : ModuleStore.names (cache.keyOf files.component) = CacheIndex.names →
      (Json.read? content : Option CacheIndex) = none)
    (hwrote : Wrote before after directory (ModuleStore.names (cache.keyOf files.component))
      content) (middle : σ) :
    Accounted root directory (some (stamped middle cache files)) after where
  sound := hwrote.sound h.sound
  document document index hheld hread := by
    rw [hwrote.held] at hheld
    split at hheld
    · rename_i hnames
      cases hheld
      rw [hcontent hnames.symm] at hread
      cases hread
    · exact h.document document index hheld hread
  known := by
    rintro _ ⟨⟩
    exact (h.known cache rfl).stamped habsolute middle

/-- Storing a module, whether or not that succeeds. -/
theorem Accounted.put (h : Accounted root directory (some cache) s)
    (habsolute : files.component.isAbsolute)
    (hcontent : ModuleStore.names (cache.keyOf files.component) = CacheIndex.names →
      (Json.read? content : Option CacheIndex) = none) :
    Accounted root directory (some (run s (cache.put files content)).1.2)
      (run s (cache.put files content)).2 := by
  have hchanges := put_changes s cache files content
  rw [(h.known cache rfl).directory] at hchanges
  rcases hchanges with ⟨hcache, hfewer⟩ | ⟨written, ready, hwrote, hsame, hcache, hsave⟩
  · rw [hcache]
    exact h.fewer hfewer
  · rw [hcache] at hsave ⊢
    have hmodule := (h.module habsolute hcontent hwrote ready).fewer hsame.fewer
    rcases hsave with hfewer | hsaved
    · exact hmodule.fewer hfewer
    · exact hmodule.saved hsaved

/-- Emptying the directory, whether or not that succeeds. -/
theorem Accounted.clean (h : Accounted root directory (some cache) s) :
    Accounted root directory (some (run s cache.clean).1.2) (run s cache.clean).2 := by
  have hknown := h.known cache rfl
  obtain ⟨hfewer, hcache⟩ := clean_changes h.sound cache
  rw [hknown.directory] at hfewer
  have hcleared := h.fewer hfewer
  rcases hcache with hcache | hcache
  · rw [hcache]
    exact hcleared
  · rw [hcache]
    exact hcleared.session hknown.emptied

/-- Opening a cache for any version of the compiler, whether or not that succeeds. -/
theorem Accounted.opened (h : Accounted root directory current s) (version : String) :
    Accounted root directory (run s (Cache.openAt root directory version)).1.toOption
      (run s (Cache.openAt root directory version)).2 := by
  have hempty := h.session (known_empty root directory version)
  rcases openAt_changes h.sound root directory version with
    ⟨index, hread, hserves, hcache, hsame⟩ | ⟨-, hcache, hsame⟩ |
      ⟨cleared, hfewer, hcache, hsaved⟩ | ⟨e, hcache, hfewer⟩
  · rw [hcache]
    obtain ⟨document, hheld, hdocument⟩ := heldAt_of_indexIn hread
    have hknown : Known root directory ⟨root, ⟨directory⟩, version, index⟩ :=
      ⟨(wellFormed_of_indexIn hread hserves).ascending, h.document document index hheld hdocument,
        rfl, rfl⟩
    exact (h.session hknown).fewer hsame.fewer
  · rw [hcache]
    exact hempty.fewer hsame.fewer
  · rw [hcache]
    exact (hempty.fewer hfewer).saved hsaved
  · rw [hcache]
    exact h.ended.fewer hfewer

end Accounted

section Status

/-- A cache of a project that was built from absolute paths of components, if one is open, and the
state it is in. The directory held no index at first. Any number of modules were stored in it, it
was emptied and opened again for any versions of the compiler, and each of this may have failed. In
between others did anything but write an index, and no module in the file of the index is one. -/
inductive Built (root directory : Path) : Option Cache → σ → Prop
  | start (s : σ) (sound : (disk s).Sound)
      (unread : ∀ text, heldAt s directory CacheIndex.names = some (.text text) →
        (Json.read? text : Option CacheIndex) = none) : Built root directory none s
  | opened {current : Option Cache} {s : σ} (built : Built root directory current s)
      (version : String) :
      Built root directory (run s (Cache.openAt root directory version)).1.toOption
        (run s (Cache.openAt root directory version)).2
  | put {cache : Cache} {s : σ} (built : Built root directory (some cache) s)
      (files : Dependencies) (content : String) (absolute : files.component.isAbsolute)
      (text : ModuleStore.names (cache.keyOf files.component) = CacheIndex.names →
        (Json.read? content : Option CacheIndex) = none) :
      Built root directory (some (run s (cache.put files content)).1.2)
        (run s (cache.put files content)).2
  | clean {cache : Cache} {s : σ} (built : Built root directory (some cache) s) :
      Built root directory (some (run s cache.clean).1.2) (run s cache.clean).2
  | elsewhere {current : Option Cache} {s : σ} (built : Built root directory current s) (after : σ)
      (sound : (disk s).Sound → (disk after).Sound)
      (document : ∀ text, heldAt after directory CacheIndex.names = some (.text text) →
        heldAt s directory CacheIndex.names = some (.text text)) :
      Built root directory current after

theorem Built.accounted (h : Built root directory current s) :
    Accounted root directory current s := by
  induction h with
  | start s sound unread =>
    refine ⟨sound, fun document index hheld hread => ?_, nofun⟩
    rw [unread document hheld] at hread
    cases hread
  | opened _ version ih => exact ih.opened version
  | put _ files content absolute text ih => exact ih.put absolute text
  | clean _ ih => exact ih.clean
  | elsewhere _ after sound document ih => exact ih.elsewhere sound document

/-- What is served for a file that is fresh is the text of its module, if that can be read. -/
theorem get?_eq_some_iff {file : Path} {text : String} :
    (run s (cache.get? file)).1 = some text ↔ (run s (cache.isFresh file)).1 = true ∧
      (disk s).readText (here s) (cache.store.path (cache.keyOf file)) = .ok text :=
  ⟨of_get?_eq_some, fun h => get?_eq_some h.1 h.2⟩

/-- A module is served just when it is fresh, unless it is fresh and its text cannot be read. -/
theorem isSome_get?_eq_iff {file : Path} :
    (run s (cache.get? file)).1.isSome = (run s (cache.isFresh file)).1 ↔
      ((run s (cache.isFresh file)).1 →
        ((disk s).readText (here s) (cache.store.path (cache.keyOf file))).isOk) := by
  rw [run_get?]
  cases (run s (cache.isFresh file)).1 with
  | false => simp
  | true =>
    cases (disk s).readText (here s) (cache.store.path (cache.keyOf file)) with
    | error e => simp [Except.toOption, Except.isOk, Except.toBool]
    | ok text => simp [Except.toOption, Except.isOk, Except.toBool]

/-- Whatever is on the disk now, the status of a cache that was built from absolute paths lists each
of its keys once and in order. It tells of each whether the file that the key stands for has the
fingerprint under the key. What is served for that file is the text of the module under the key, if
the file is fresh and the text can be read. So being fresh is being served as long as the texts of
the modules that are fresh can be read, and only then. -/
theorem status_of_built (hroot : root.isAbsolute) (h : Built root directory (some cache) s)
    (now : σ) :
    let listed := (run now cache.status).1
    listed.Pairwise (fun a b => a.key < b.key) ∧
      (∀ key, key ∈ listed.map (·.key) ↔ (Keyed.get? key cache.index.entries).isSome) ∧
      ∀ entry ∈ listed,
        let file := root.join ⟨entry.key⟩
        let text := (disk now).readText (here now) (cache.store.path entry.key)
        cache.keyOf file = entry.key ∧
          (entry.fresh = true ↔ ∃ fingerprint,
            Keyed.get? entry.key cache.index.entries = some fingerprint ∧
              (fingerprintOf now root (fingerprint.dependencies root file)).same fingerprint) ∧
          (∀ served, (run now (cache.get? file)).1 = some served ↔
            entry.fresh = true ∧ text = .ok served) ∧
          ((run now (cache.get? file)).1.isSome = entry.fresh ↔ (entry.fresh → text.isOk)) := by
  have hknown := h.accounted.known cache rfl
  dsimp only
  rw [run_status]
  refine ⟨?_, fun key => ?_, fun entry hentry => ?_⟩
  · exact List.pairwise_map.mpr hknown.ascending
  · rw [Keyed.isSome_get?_iff, List.map_map]
    rfl
  · obtain ⟨⟨key, fingerprint⟩, hmem, rfl⟩ := List.mem_map.mp hentry
    have hget : Keyed.get? key cache.index.entries = some fingerprint :=
      (Keyed.get?_eq_some_iff_mem hknown.ascending.nodup).mpr hmem
    have hkey : cache.keyOf (root.join ⟨key⟩) = key :=
      hknown.keyOf_join hroot (Option.isSome_of_eq_some hget)
    dsimp only
    rw [hknown.root]
    refine ⟨hkey, ?_, fun served => ?_, ?_⟩
    · rw [run_isFresh, hkey, hget, hknown.root]
      simp
    · rw [get?_eq_some_iff, hkey]
    · rw [isSome_get?_eq_iff, hkey]

/-- The cache of the project with the module of one component. -/
theorem built_storedFor : Built ⟨"/p"⟩ ⟨"/c"⟩ (some (storedFor "1" "A" unbuilt).1.2)
    (storedFor "1" "A" unbuilt).2 := by
  have hstart : Built ⟨"/p"⟩ ⟨"/c"⟩ none unbuilt := by
    refine .start unbuilt (sound_of_entries (by decide)) fun text hheld => ?_
    have hnone : heldAt unbuilt ⟨"/c"⟩ CacheIndex.names = none := by decide +kernel
    rw [hnone] at hheld
    cases hheld
  have hok : (openedFor "1" unbuilt).1.isOk := by decide +kernel
  have hnames : ModuleStore.names (((openedFor "1" unbuilt).1.toOption.getD default).keyOf
      ⟨"/p/App.vue"⟩) ≠ CacheIndex.names := by decide +kernel
  have hopened : Built ⟨"/p"⟩ ⟨"/c"⟩ (openedFor "1" unbuilt).1.toOption (openedFor "1" unbuilt).2 :=
    hstart.opened "1"
  rw [storedFor]
  generalize openedFor "1" unbuilt = outcome at hok hnames hopened ⊢
  obtain ⟨result, after⟩ := outcome
  cases result with
  | error e => cases hok
  | ok cache =>
    dsimp only [Except.toOption, Option.getD_some] at hnames hopened ⊢
    exact hopened.put ⟨⟨"/p/App.vue"⟩, none, none⟩ "A" (by decide) fun heq => absurd heq hnames

/-- The module of the component is fresh and served. -/
theorem status_of_built_of_one_module :
    let cache := (storedFor "1" "A" unbuilt).1.2
    let now := (storedFor "1" "A" unbuilt).2
    (run now cache.status).1 = [⟨"App.vue", true⟩] ∧
      (run now (cache.get? ((⟨"/p"⟩ : Path).join ⟨"App.vue"⟩))).1.isSome = true := by
  have hlisted : (run (storedFor "1" "A" unbuilt).2 (storedFor "1" "A" unbuilt).1.2.status).1 =
      [⟨"App.vue", true⟩] := by decide +kernel
  have hread : ((disk (storedFor "1" "A" unbuilt).2).readText (here (storedFor "1" "A" unbuilt).2)
      ((storedFor "1" "A" unbuilt).1.2.store.path "App.vue")).isOk := by decide +kernel
  refine ⟨hlisted, ?_⟩
  obtain ⟨-, -, hentries⟩ :=
    status_of_built (by decide) built_storedFor (storedFor "1" "A" unbuilt).2
  rw [hlisted] at hentries
  obtain ⟨-, -, -, hagrees⟩ := hentries ⟨"App.vue", true⟩ List.mem_cons_self
  exact hagrees.mpr fun _ => hread

/-- Once the file of the module is gone it is still told to be fresh, and not served. -/
theorem fresh_of_missing_module :
    let cache := (storedFor "1" "A" unbuilt).1.2
    let now := (run (storedFor "1" "A" unbuilt).2 (Files.remove ⟨"/c/App.vue"⟩)).2
    Built ⟨"/p"⟩ ⟨"/c"⟩ (some cache) (storedFor "1" "A" unbuilt).2 ∧
      (run now cache.status).1 = [⟨"App.vue", true⟩] ∧
      (run now (cache.get? ((⟨"/p"⟩ : Path).join ⟨"App.vue"⟩))).1 = none := by
  refine ⟨built_storedFor, ?_, ?_⟩
  · decide +kernel
  · decide +kernel

end Status

end Host
end ComponentCompiler
