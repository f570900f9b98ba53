import ComponentCompiler.Proofs.Cache.Freshness
import ComponentCompiler.Proofs.Cache.Opening
import ComponentCompiler.Proofs.Cache.Readback
import ComponentCompiler.Proofs.Machine.Edits
import ComponentCompiler.Proofs.Machine.Written

/-!
# What was stored can be served

A module that was stored without an error was written, and after it an index with its fingerprint,
in a directory that was there by then (`put_of_ok`). So its text is read again
(`readText_of_put`), the index is read from its document as it was (`indexIn_of_put`), and unless
the module depends on what the second write changed it is fresh (`same_of_put`).
-/

namespace ComponentCompiler

open Disk ComponentCompiler.Path

section Directories

variable {disk : Disk} {here place : Place} {directory : Path} {node : Node}
  {parts : List (List Char)}

/-- Where pieces after a path lead somewhere, the path leads to a directory. -/
theorem Disk.find_of_find_pieces (hne : directory.text ≠ "") (hparts : parts ≠ [])
    (hslash : ∀ part ∈ parts, '/' ∉ part)
    (h : disk.find here (parts.foldl (fun path part => path.join ⟨String.ofList part⟩) directory) =
      .ok (place, node)) :
    ∃ time, disk.find here directory = .ok (spot here directory, .directory time) := by
  induction parts generalizing directory place node with
  | nil => exact absurd rfl hparts
  | cons part parts ih =>
      have hpart : '/' ∉ (String.ofList part).toList := by
        rw [String.toList_ofList]
        exact hslash part List.mem_cons_self
      cases parts with
      | nil => exact find_of_find_join hne hpart h
      | cons next parts =>
          have hjoined : (directory.join ⟨String.ofList part⟩).text ≠ "" := by
            have hrelative : (⟨String.ofList part⟩ : Path).isAbsolute = false :=
              isAbsolute_of_not_mem hpart
            have hnonempty : directory.text.toList ≠ [] := by simpa using hne
            obtain ⟨front, -, hjoin⟩ := join_of_relative hrelative hnonempty
            intro hempty
            rw [hempty] at hjoin
            simp at hjoin
          obtain ⟨time, hfind⟩ := ih hjoined (by simp)
            (fun part hmem => hslash part (List.mem_cons_of_mem _ hmem)) h
          exact find_of_find_join hne hpart hfind

end Directories

namespace Host

variable {σ : Type} [Files (StateM σ)] [Journal (StateM σ)] [Host σ]
variable {s middle : σ} {cache : Cache} {files : Dependencies} {content key : String}
  {store : ModuleStore} {index : CacheIndex} {directory path : Path}

section Writes

omit [Journal (StateM σ)] [Host σ] in
/-- A module that was stored was written to the file of its key. -/
theorem written_of_write (hok : (run s (store.write key content)).1.isOk) :
    ∃ started, (run started (Files.writeText (store.path key) content)).1.isOk ∧
      (run s (store.write key content)).2 =
        (run started (Files.writeText (store.path key) content)).2 := by
  rcases write_cases s store key content with ⟨herror, -⟩ | ⟨hresult, hafter⟩
  · rw [hok] at herror
    cases herror
  · exact ⟨_, hresult ▸ hok, hafter⟩

omit [Journal (StateM σ)] [Host σ] in
/-- An index that was saved was written to its file, once the directory was made. -/
theorem written_of_save (hok : (run s (index.save directory)).1.isOk) :
    let made := (run s (Files.makeDirectories directory)).2
    let document := Files.writeText (directory.join CacheIndex.fileName) index.document
    (run made document).1.isOk ∧ (run s (index.save directory)).2 = (run made document).2 := by
  rcases save_cases s index directory with ⟨herror, -⟩ | ⟨hresult, hafter⟩
  · rw [hok] at herror
    cases herror
  · exact ⟨hresult ▸ hok, hafter⟩

/-- The empty path needs no directory. -/
theorem same_makeDirectories_empty (h : directory.text = "") (s : σ) :
    Same s (run s (Files.makeDirectories directory)).2 := by
  obtain rfl : directory = ⟨""⟩ := congrArg Path.mk h
  refine ⟨?_, here_makeDirectories s _⟩
  have htried := makeDirectories_tried s ⟨""⟩
  rw [run]
  generalize ((Files.makeDirectories ⟨""⟩ : StateM σ _) s).1 = result at htried
  generalize disk ((Files.makeDirectories ⟨""⟩ : StateM σ _) s).2 = after at htried
  cases htried with
  | happened now => rfl
  | failed e => rfl
  | brokeOff e h => exact absurd h.1 whole

/-- Where a file was written below a directory, in which another file can be written, the directory
is there. -/
theorem same_makeDirectories_of_written
    (hwritten : (run s (Files.writeText (store.path key) content)).1.isOk)
    (hsame : Same (run s (Files.writeText (store.path key) content)).2 middle)
    (hsaved : (run (run middle (Files.makeDirectories store.directory)).2
      (Files.writeText (store.directory.join CacheIndex.fileName) index.document)).1.isOk) :
    Same middle (run middle (Files.makeDirectories store.directory)).2 := by
  obtain ⟨now, hfind⟩ := find_writeText hwritten
  rw [← hsame.disk, ← hsame.here] at hfind
  by_cases hempty : store.directory.text = ""
  · exact same_makeDirectories_empty hempty middle
  by_cases hparts : (Text.pieces '/' key.toList).filter ModuleStore.keepsPart = []
  · -- The file would stand where the directory has to be.
    exfalso
    have hpath : store.path key = store.directory := by
      rw [ModuleStore.path, hparts]
      rfl
    rw [hpath] at hfind
    have hmade := kept_makeDirectories middle store.directory
    generalize (run middle (Files.makeDirectories store.directory)).2 = made at hmade hsaved
    obtain ⟨now', hwrite'⟩ := writeFile_of_writeText hsaved
    obtain ⟨parent, name, hspot, -, hparent, -⟩ := of_writeFile hwrite'
    rw [CacheIndex.spot_fileName, hmade.here] at hspot
    obtain ⟨rfl, -⟩ := List.append_singleton_inj.mp hspot
    have hfile := (hmade.disk.nodes (spot (here middle) store.directory)).fileAt_eq
    rw [hparent.fileAt_eq_none, (find_eq_ok hfind).1.symm, fileAt_of_find hfind] at hfile
    cases hfile
  · obtain ⟨time, hdirectory⟩ := find_of_find_pieces hempty hparts
      (fun part hpart => Text.not_mem_of_mem_pieces (List.mem_filter.mp hpart).1) hfind
    exact same_makeDirectories hdirectory

/-- A module was stored: its text was written, and after it an index with its fingerprint. -/
structure Filed (cache : Cache) (files : Dependencies) (content : String)
    (started ready after : σ) : Prop where
  text : (run started
    (Files.writeText (cache.store.path (cache.keyOf files.component)) content)).1.isOk
  same : Same (run started
    (Files.writeText (cache.store.path (cache.keyOf files.component)) content)).2 ready
  index : (run ready (Files.writeText (cache.directory.join CacheIndex.fileName)
    (stamped ready cache files).index.document)).1.isOk
  after : after = (run ready (Files.writeText (cache.directory.join CacheIndex.fileName)
    (stamped ready cache files).index.document)).2

/-- What was stored without an error was written, and nothing else happened to the files after its
text was there. -/
theorem filed_of_put (hok : (run s (cache.put files content)).1.1.isOk) :
    ∃ started ready, Filed cache files content started ready (run s (cache.put files content)).2 ∧
      (run s (cache.put files content)).1.2 = stamped ready cache files := by
  cases hwritten : (textWritten s cache files content).1 with
  | error e =>
    rw [run_put_of_error hwritten] at hok
    cases hok
  | ok path =>
    obtain ⟨told, htold, hput⟩ := run_put_of_ok hwritten
    have hwritten' : (textWritten s cache files content).1.isOk := by
      rw [hwritten]
      rfl
    obtain ⟨started, htext, hstarted⟩ := written_of_write hwritten'
    rw [textWritten, hstarted] at htold
    rw [hput, run_stamp] at hok ⊢
    obtain ⟨hindex, hsaved⟩ := written_of_save hok
    have hmade : Same told (run told (Files.makeDirectories cache.directory)).2 :=
      same_makeDirectories_of_written htext htold hindex
    have hstamped : stamped (run told (Files.makeDirectories cache.directory)).2 cache files =
        stamped told cache files := by simp only [stamped, hmade.fingerprintOf_eq]
    refine ⟨started, (run told (Files.makeDirectories cache.directory)).2,
      ⟨htext, htold.trans hmade, ?_, ?_⟩, hstamped.symm⟩
    · rw [hstamped]
      exact hindex
    · rw [hstamped]
      exact hsaved

end Writes

section Consequences

variable {started ready after : σ} {root : Path}

theorem Filed.here (h : Filed cache files content started ready after) :
    Host.here after = Host.here ready := by
  rw [h.after, here_run_writeText]

/-- The text of a module that was stored is read again, unless it stood in the file of the index. -/
theorem Filed.readText (h : Filed cache files content started ready after)
    (hnames : ModuleStore.names (cache.keyOf files.component) ≠ CacheIndex.names) :
    (disk after).readText (Host.here after) (cache.store.path (cache.keyOf files.component)) =
      .ok content := by
  obtain ⟨now, hfind⟩ := find_writeText h.text
  rw [← h.same.disk, ← h.same.here] at hfind
  obtain ⟨now', hwrite⟩ := writeFile_of_writeText h.index
  rw [← h.after] at hwrite
  have hother : spot (Host.here ready) (cache.store.path (cache.keyOf files.component)) ≠
      spot (Host.here ready) (cache.directory.join CacheIndex.fileName) := by
    rw [CacheIndex.spot_fileName, ModuleStore.spot_path]
    exact fun heq => hnames (List.append_cancel_left heq)
  have hfile := (alikeAt_writeFile hwrite hother).fileAt_eq
  rw [← (find_eq_ok hfind).1, fileAt_of_find hfind] at hfile
  have hfound := find_of_way hfind (fun _ _ => (rewritten_writeFile hwrite).isDirectory)
    (node?_of_fileAt hfile)
  rw [← h.here] at hfound
  exact readText_of_find hfound

/-- The index that was saved is read from its document as it was. -/
theorem Filed.indexIn (h : Filed cache files content started ready after)
    (hformed : (stamped ready cache files).index.WellFormed) :
    Host.indexIn after cache.directory = some (stamped ready cache files).index := by
  obtain ⟨now, hfind⟩ := find_writeText h.index
  rw [← h.after] at hfind
  rw [Host.indexIn, readText_of_find hfind, Except.toOption, Option.bind_some]
  exact CacheIndex.read?_document hformed

/-- A path that leads neither to the directory nor to the index has the time that it had. -/
theorem Filed.timeOf_eq (h : Filed cache files content started ready after)
    (hindex : spot (Host.here ready) path ≠
      spot (Host.here ready) cache.directory ++ CacheIndex.names)
    (hdirectory : spot (Host.here ready) path ≠ spot (Host.here ready) cache.directory) :
    timeOf after path = timeOf ready path := by
  rw [h.after]
  apply timeOf_writeText h.index
  · rwa [CacheIndex.spot_fileName]
  · rw [CacheIndex.spot_fileName, CacheIndex.names, List.dropLast_concat]
    exact hdirectory

/-- A module that is fresh and whose text can be read is served. -/
theorem get?_eq_some {file : Path} {text : String} (hfresh : (run s (cache.isFresh file)).1 = true)
    (hread : (disk s).readText (Host.here s) (cache.store.path (cache.keyOf file)) = .ok text) :
    (run s (cache.get? file)).1 = some text := by
  rw [Cache.get?, run_bind, snd_isFresh, hfresh, if_pos rfl, run_bind, run_read?, hread]
  rfl

/-- A path is neither that of the directory of a cache nor that of its index. -/
structure Aside (s : σ) (directory path : Path) : Prop where
  index : spot (Host.here s) path ≠ spot (Host.here s) directory ++ CacheIndex.names
  directory : spot (Host.here s) path ≠ spot (Host.here s) directory

/-- Joined to the root, the stored form of a path has the time of the path, if that has one. -/
theorem timeOf_join_stored_of_isSome (hroot : root.isAbsolute) (hpath : path.isAbsolute)
    (hother : path.components ≠ root.components) (htime : (timeOf s path).isSome) :
    timeOf s (root.join ⟨root.stored path⟩) = timeOf s path := by
  have hparts : path.parts ≠ root.parts :=
    fun heq => hother ((components_eq_iff hpath hroot).mpr heq)
  rcases join_stored_cases hroot hpath hparts with hends | hjoin
  · rw [Host.timeOf_eq] at htime ⊢
    cases hfind : (disk s).find (Host.here s) path with
    | error e =>
      rw [hfind] at htime
      cases htime
    | ok found =>
      rw [Host.timeOf_eq, hfind, find_of_parts hpath (isAbsolute_join hroot _)
        (parts_join_stored hroot hpath) hends hfind]
  · rw [hjoin]

/-- An external file that has the time of its stamp has the same stamp again. -/
theorem same_stampOf (hroot : root.isAbsolute) {external : Option Path}
    (hexternal : ∀ path ∈ external, (root.join path).components ≠ root.components ∧
      timeOf after (root.join path) = timeOf ready (root.join path)) :
    sameOption ExternalStamp.same
      (stampOf after root ((stampOf ready root external).map fun stamp => root.join ⟨stamp.path⟩))
      (stampOf ready root external) := by
  cases external with
  | none => rfl
  | some path =>
    obtain ⟨hother, htime⟩ := hexternal path rfl
    have habsolute := isAbsolute_join hroot path
    have hstamp : stampOf ready root (some path) = (timeOf ready (root.join path)).map
        fun modified => ⟨root.stored (root.join path), modified⟩ := rfl
    rw [hstamp]
    cases hx : timeOf ready (root.join path) with
    | none => rfl
    | some x =>
      rw [hx] at htime
      have hsome : (timeOf after (root.join path)).isSome := by rw [htime]; rfl
      rw [Option.map_some, Option.map_some, stampOf_of_isAbsolute (isAbsolute_join hroot _),
        timeOf_join_stored_of_isSome hroot habsolute hother hsome, htime, Option.map_some,
        stored_join_stored hroot habsolute]
      simp [sameOption, ExternalStamp.same, Binary64.same]

/-- The files that a module depends on, none of which is the directory of the cache or its index,
and of which no external one is the root. -/
structure Steady (s : σ) (root directory : Path) (files : Dependencies) : Prop where
  component : Aside s directory (root.join files.component)
  external : ∀ path ∈ files.externals, Aside s directory (root.join path)
  other : ∀ path ∈ files.externals, (root.join path).components ≠ root.components

theorem Steady.of_here {directory : Path} (h : Steady s root directory files)
    (hhere : Host.here after = Host.here s) : Steady after root directory files where
  component := ⟨hhere ▸ h.component.index, hhere ▸ h.component.directory⟩
  external path hpath := ⟨hhere ▸ (h.external path hpath).index,
    hhere ▸ (h.external path hpath).directory⟩
  other := h.other

/-- A module that was stored is fresh if its files are neither the root nor what belongs to the
cache. -/
theorem Filed.same_fingerprint (h : Filed cache files content started ready after)
    (hroot : cache.root.isAbsolute) (hsteady : Steady after cache.root cache.directory files) :
    (fingerprintOf after cache.root ((fingerprintOf ready cache.root files).dependencies
      cache.root files.component)).same (fingerprintOf ready cache.root files) := by
  have htime : ∀ path, Aside after cache.directory path →
      timeOf after path = timeOf ready path := by
    rintro path ⟨hindex, hdirectory⟩
    rw [h.here] at hindex hdirectory
    exact h.timeOf_eq hindex hdirectory
  have hstamp : ∀ external : Option Path, (∀ path ∈ external, path ∈ files.externals) →
      sameOption ExternalStamp.same
        (stampOf after cache.root ((stampOf ready cache.root external).map fun stamp =>
          cache.root.join ⟨stamp.path⟩)) (stampOf ready cache.root external) := by
    intro external hmem
    apply same_stampOf hroot
    intro path hpath
    exact ⟨hsteady.other path (hmem path hpath), htime _ (hsteady.external path (hmem path hpath))⟩
  rw [Fingerprint.same, Bool.and_eq_true, Bool.and_eq_true]
  refine ⟨⟨?_, hstamp files.externalScript fun path hpath => ?_⟩,
    hstamp files.externalTemplate fun path hpath => ?_⟩
  · exact (sameOption_timeOf _ _ _ _).mpr (htime _ hsteady.component)
  · exact List.mem_append_left _ (Option.mem_toList.mpr hpath)
  · exact List.mem_append_right _ (Option.mem_toList.mpr hpath)

end Consequences

section Times

/-- The times that a host tells are numbers in their normal form. -/
theorem normal_of_timeOf {x : Binary64} (h : timeOf s path = some x) : x.Normal := by
  obtain ⟨time, htime⟩ := exists_of_timeOf h
  obtain ⟨sum, -, hproduct⟩ := Timestamp.milliseconds?_eq_some htime
  exact Binary64.normal_of_ofRatio? (Binary64.scaled_snd_pos _ Nat.one_pos _).ne' hproduct

theorem normal_fingerprintOf (s : σ) (root : Path) (files : Dependencies) :
    (fingerprintOf s root files).Normal := by
  have hstamp : ∀ external : Option Path, ∀ stamp ∈ stampOf s root external,
      stamp.modified.Normal := by
    intro external stamp hstamp
    obtain ⟨path, -, hstamp⟩ := Option.bind_eq_some_iff.mp hstamp
    obtain ⟨x, hx, rfl⟩ := Option.map_eq_some_iff.mp hstamp
    exact normal_of_timeOf hx
  exact ⟨fun x hx => normal_of_timeOf hx, hstamp files.externalScript,
    hstamp files.externalTemplate⟩

theorem wellFormed_stamped (h : cache.index.WellFormed) (s : σ) (files : Dependencies) :
    (stamped s cache files).index.WellFormed :=
  h.insert _ (normal_fingerprintOf s cache.root files)

end Times

section Caches

variable {root : Path} {version : String}

/-- A cache that was opened in a directory for a version of the compiler, whatever was stored in it
since. -/
structure Opened (root directory : Path) (version : String) (cache : Cache) : Prop where
  root : cache.root = root
  directory : cache.directory = directory
  version : cache.index.compilerVersion = version
  formed : cache.index.WellFormed

theorem wellFormed_of_indexIn {index : CacheIndex} (h : indexIn s directory = some index)
    (hserves : index.serves version) : index.WellFormed := by
  obtain ⟨document, -, hread⟩ := Option.bind_eq_some_iff.mp h
  exact CacheIndex.wellFormed_of_read? hread (serves_iff.mp hserves).1

/-- Where an index is read there is a file with its name. -/
theorem isOk_find_of_indexIn {index : CacheIndex} (h : indexIn s directory = some index) :
    ((disk s).find (Host.here s) (directory.join CacheIndex.fileName)).isOk := by
  obtain ⟨document, hdocument, -⟩ := Option.bind_eq_some_iff.mp h
  obtain ⟨time, hfind⟩ := find_of_readText (ok_of_toOption hdocument)
  rw [hfind]
  rfl

theorem opened_of_openAt
    (h : (run s (Cache.openAt root directory version)).1 = .ok cache) :
    Opened root directory version cache := by
  rcases run_openAt_cases s root directory version with
    ⟨index, hread, hserves, hcache, -⟩ | ⟨-, ⟨-, hcache, -⟩ | ⟨-, middle, -, hcache, -⟩⟩
  · rw [hcache] at h
    cases h
    exact ⟨rfl, rfl, (serves_iff.mp hserves).2, wellFormed_of_indexIn hread hserves⟩
  · rw [hcache] at h
    cases h
    exact ⟨rfl, rfl, rfl, CacheIndex.wellFormed_empty version⟩
  · rw [hcache] at h
    obtain ⟨_, -, rfl⟩ := ok_of_map h
    exact ⟨rfl, rfl, rfl, CacheIndex.wellFormed_empty version⟩

/-- A cache whose directory has an index that serves it is opened with that index, and nothing
changes. -/
theorem run_openAt_of_indexIn {index : CacheIndex}
    (h : indexIn s directory = some index) (hserves : index.serves version) :
    (run s (Cache.openAt root directory version)).1 =
        .ok ⟨root, ⟨directory⟩, version, index⟩ ∧
      Same s (run s (Cache.openAt root directory version)).2 := by
  rcases run_openAt_cases s root directory version with
    ⟨found, hread, -, hcache, hsame⟩ | ⟨hnone, -⟩
  · rw [h] at hread
    cases hread
    exact ⟨hcache, hsame⟩
  · simp [h, hserves] at hnone

theorem Opened.stamped (h : Opened root directory version cache) (s : σ) (files : Dependencies) :
    Opened root directory version (Host.stamped s cache files) :=
  ⟨h.root, h.directory, h.version, wellFormed_stamped h.formed s files⟩

theorem Opened.put (h : Opened root directory version cache) (s : σ) (files : Dependencies)
    (content : String) : Opened root directory version (run s (cache.put files content)).1.2 := by
  rw [cache_of_put]
  split
  · exact h.stamped _ files
  · exact h

end Caches

end Host
end ComponentCompiler
