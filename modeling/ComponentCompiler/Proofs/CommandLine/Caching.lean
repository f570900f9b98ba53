import ComponentCompiler.CommandLine.Basic
import ComponentCompiler.Proofs.Cache.Confinement
import ComponentCompiler.Proofs.Cache.Emptying
import ComponentCompiler.Proofs.Path.Ancestors

/-!
# What the commands on a cache do to its directory

Both commands open the cache for the version of the compiler that its index names, so that the
version of the compiler never empties it. The version of the format does: an index of another
format is replaced when the cache is opened (`openStored_of_other`). So if no index of another
format is read, looking into a cache leaves its directory alone, and emptying it tells how many
entries it had. Otherwise opening empties the directory, and only the new index is left to be told
of (`caching_commands_by_format`).
-/

namespace ComponentCompiler

open Disk hiding locate
open CommandLine

namespace Host

variable {machine after : Machine} {settings : Settings} {project : Project} {root directory : Path}
  {index : CacheIndex}

section Projects

theorem reads_isFile (path : Path) : Reads (Files.isFile path : StateM Machine Bool) :=
  fun machine => .refl machine

theorem reads_firstProject (directories : List Path) :
    Reads (firstProject directories : StateM Machine _) := by
  induction directories with
  | nil => exact reads_pure _
  | cons directory rest ih =>
    rw [firstProject]
    refine (reads_isFile _).bind fun found => ?_
    split
    · exact reads_pure _
    · exact ih

theorem mem_of_firstProject {directories : List Path}
    (h : (run machine (firstProject directories)).1 = some directory) :
    directory ∈ directories := by
  induction directories generalizing machine with
  | nil => cases h
  | cons first rest ih =>
    rw [firstProject, run_bind] at h
    split at h
    · cases h
      exact List.mem_cons_self
    · exact List.mem_cons_of_mem _ (ih h)

theorem reads_loadFile (path : Path) : Reads (Config.loadFile path : StateM Machine _) := by
  refine (reads_readText path).bind fun result => ?_
  cases result <;> exact reads_pure _

theorem reads_load (root : Path) : Reads (Config.load root : StateM Machine _) := by
  refine (reads_isFile _).bind fun found => ?_
  split
  · exact reads_loadFile _
  · exact (reads_record _).bind fun _ => reads_pure _

theorem reads_locate (settings : Settings) (start : Path) :
    Reads (locate settings start : StateM Machine _) := by
  unfold locate
  split
  · exact (reads_loadFile _).bind fun _ => reads_pure _
  · exact (reads_firstProject _).bind fun _ => (reads_load _).bind fun _ => reads_pure _

/-- The root of a project that is looked for from an absolute path is absolute. -/
theorem isAbsolute_locate {start : Path} (h : start.isAbsolute) :
    (run machine (locate settings start)).1.1.isAbsolute := by
  rw [locate]
  split
  · rename_i file _
    rw [run_bind, run_pure]
    cases hparent : (start.join file).parent? with
    | none => exact h
    | some parent =>
      rw [Option.getD_some, (Path.parts_of_parent? hparent).1]
      exact Path.isAbsolute_join h file
  · rw [run_bind, run_bind, run_pure]
    cases hfirst : (run machine (firstProject start.ancestors)).1 with
    | none => exact h
    | some directory =>
      rw [Option.getD_some, (Path.parts_of_mem_ancestors (mem_of_firstProject hfirst)).1]
      exact h

theorem reads_readEnvironment : Reads (readEnvironment : StateM Machine Environment) :=
  fun machine => .refl machine

theorem reads_showLevel (level : LogLevel) :
    Reads (Journal.showLevel level : StateM Machine Unit) := fun _ => ⟨rfl, rfl⟩

/-- Opening a project changes nothing on the disk. -/
theorem reads_openProject (settings : Settings) :
    Reads (openProject settings : ExceptT CommandError (StateM Machine) Project).run := by
  refine Reads.andThen (fun machine => .refl machine) fun start => ?_
  refine (reads_locate settings start).lift.andThen fun found => ?_
  refine Reads.andThen (reads_pure _) fun config => ?_
  refine reads_readEnvironment.lift.andThen fun environment => ?_
  refine Reads.andThen (reads_pure _) fun config => ?_
  refine (reads_showLevel _).lift.andThen fun _ => ?_
  exact (reads_record _).lift.andThen fun _ => reads_pure _

theorem isAbsolute_workingPath (machine : Machine) : machine.workingPath.isAbsolute := by
  simp [Path.isAbsolute, Machine.workingPath]

/-- The root of a project is absolute. -/
theorem isAbsolute_root (h : (run machine (openProject settings).run).1 = .ok project) :
    project.root.isAbsolute := by
  obtain ⟨start, hstart, h⟩ := ok_of_bind h
  obtain ⟨found, hfound, h⟩ := ok_of_bind h
  obtain ⟨_, -, h⟩ := ok_of_bind h
  obtain ⟨_, -, h⟩ := ok_of_bind h
  obtain ⟨_, -, h⟩ := ok_of_bind h
  obtain ⟨_, -, h⟩ := ok_of_bind h
  obtain ⟨_, -, h⟩ := ok_of_bind h
  cases hstart
  cases hfound
  cases h
  exact isAbsolute_locate (isAbsolute_workingPath machine)

/-- So the path of its cache is not empty. -/
theorem named_cacheDirectory (h : (run machine (openProject settings).run).1 = .ok project) :
    (project.config.cacheDirectory project.root).text ≠ "" := by
  have habsolute : (project.config.cacheDirectory project.root).isAbsolute :=
    Path.isAbsolute_join (isAbsolute_root h) _
  intro hempty
  rw [Path.isAbsolute, hempty] at habsolute
  cases habsolute

end Projects

section Opening

/-- No index of another format is read in a directory. -/
def Current (machine : Machine) (directory : Path) : Prop :=
  ∀ index ∈ indexIn machine directory, index.version = CacheIndex.formatVersion

instance (machine : Machine) (directory : Path) : Decidable (Current machine directory) :=
  inferInstanceAs (Decidable (∀ index ∈ indexIn machine directory, _))

theorem Current.same (h : Current machine directory) (hsame : Same machine after) :
    Current after directory := by
  rw [Current, hsame.indexIn_eq]
  exact h

/-- A directory without an index of another format is left as it is. -/
theorem openStored_of_current (h : Current machine directory) (root : Path) :
    ∃ opened, (run machine (openStored root directory)).1 = .ok opened ∧
      (∀ cache ∈ opened, cache.directory = directory) ∧
      Same machine (run machine (openStored root directory)).2 := by
  obtain ⟨hload, hsame⟩ := run_load machine directory
  rw [openStored, run_bind, hload]
  generalize (run machine (CacheIndex.load directory)).2 = told at hsame ⊢
  cases hread : indexIn machine directory with
  | none => exact ⟨none, rfl, nofun, hsame⟩
  | some index =>
    have hserves : index.serves index.compilerVersion := serves_iff.mpr ⟨h index hread, rfl⟩
    rw [← hsame.indexIn_eq] at hread
    obtain ⟨hopened, hopen⟩ := run_openAt_of_indexIn hread hserves
    dsimp only
    rw [run_bind, hopened]
    refine ⟨_, rfl, fun cache hcache => ?_, hsame.trans hopen⟩
    obtain rfl := Option.mem_some_iff.mp hcache
    rfl

/-- A cache that is opened in a directory with an index of another format is empty, and so is its
index, which is the only entry of the directory then. -/
theorem openAt_of_other (h : Listed machine directory)
    (hread : indexIn machine directory = some index)
    (hformat : index.version ≠ CacheIndex.formatVersion) (root : Path) (version : String) :
    (run machine (Cache.openAt root directory version)).1 =
        .ok ⟨root, ⟨directory⟩, version, .empty version⟩ ∧
      Listed (run machine (Cache.openAt root directory version)).2 directory ∧
      (disk (run machine (Cache.openAt root directory version)).2).names
        (spot (here machine) directory) = CacheIndex.names := by
  rcases run_openAt_cases machine root directory version with
    ⟨found, hfound, hserves, -⟩ | ⟨-, ⟨habsent, -⟩ | ⟨-, middle, hmiddle, hcache, hafter⟩⟩
  · rw [hread] at hfound
    cases hfound
    exact absurd (serves_iff.mp hserves).1 hformat
  · rw [isOk_find_of_indexIn hread] at habsent
    cases habsent
  · obtain ⟨hresult, hlisted, hnames⟩ := (h.same hmiddle).reset version
    rw [hmiddle.here] at hnames
    rw [hcache, hafter, hresult]
    exact ⟨rfl, hlisted, hnames⟩

/-- A directory with an index of another format is emptied and gets an empty index. -/
theorem openStored_of_other (h : Listed machine directory)
    (hread : indexIn machine directory = some index)
    (hformat : index.version ≠ CacheIndex.formatVersion) (root : Path) :
    (run machine (openStored root directory)).1 =
        .ok (some ⟨root, ⟨directory⟩, index.compilerVersion, .empty index.compilerVersion⟩) ∧
      here (run machine (openStored root directory)).2 = here machine ∧
      Listed (run machine (openStored root directory)).2 directory ∧
      (disk (run machine (openStored root directory)).2).names
        (spot (here (run machine (openStored root directory)).2) directory) = CacheIndex.names ∧
      Emptied (run machine (openStored root directory)).2 directory index.compilerVersion := by
  obtain ⟨hload, hsame⟩ := run_load machine directory
  rw [openStored, run_bind, hload, hread]
  rw [← hsame.indexIn_eq] at hread
  have hlisted := h.same hsame
  rw [← hsame.here]
  generalize (run machine (CacheIndex.load directory)).2 = told at hread hlisted ⊢
  obtain ⟨hopened, hafter, hnames⟩ := openAt_of_other hlisted hread hformat root
    index.compilerVersion
  have hhere := (spares_openAt hlisted.sound root directory index.compilerVersion).here
  dsimp only
  rw [run_bind, hopened, run_pure]
  refine ⟨rfl, hhere, hafter, hhere ▸ hnames, ?_⟩
  rcases openAt_cases hlisted.sound hlisted.named hopened with
    ⟨found, hfound, hcurrent, -⟩ | ⟨-, -, hemptied⟩
  · rw [hread] at hfound
    cases hfound
    exact absurd hcurrent hformat
  · exact hemptied (isOk_find_of_indexIn hread)

end Opening

section Commands

/-- How many entries a directory has, none if it is not there. -/
def heldIn (machine : Machine) (directory : Path) : Nat :=
  (((disk machine).entries (here machine) directory).toOption.getD []).length

theorem Listed.heldIn_eq (h : Listed machine directory) :
    heldIn machine directory = ((disk machine).names (spot (here machine) directory)).length := by
  obtain ⟨time, hfind⟩ := h.find
  rw [heldIn, entries, hfind]
  exact List.length_map _

/-- A directory in which a cache can be kept: it is listed, or it is not there yet. -/
def Usable (machine : Machine) (directory : Path) : Prop :=
  Listed machine directory ∨ (disk machine).find (here machine) directory = .error .notFound

/-- A directory can be emptied, and the result is how many entries it had. -/
theorem Usable.clear (h : Usable machine directory) :
    (run machine (ModuleStore.mk directory).clear).1 = .ok (heldIn machine directory) := by
  rcases h with hlisted | hmissing
  · rw [hlisted.heldIn_eq]
    exact hlisted.clear.1
  · have hentries : (disk machine).entries (here machine) directory = .error .notFound := by
      rw [entries, hmissing]
      rfl
    rw [ModuleStore.clear, run_bind, run_entries, hentries, heldIn, hentries]
    rfl

theorem Usable.same (h : Usable machine directory) (hsame : Same machine after) :
    Usable after directory := by
  rcases h with hlisted | hmissing
  · exact .inl (hlisted.same hsame)
  · refine .inr ?_
    rw [hsame.disk, hsame.here]
    exact hmissing

/-- Emptying the directory of a cache is the same whether or not the cache was opened. -/
theorem run_cleanCache {opened : Option Cache}
    (h : ∀ cache ∈ opened, cache.directory = directory) :
    run machine (cleanCache directory opened) = run machine (ModuleStore.mk directory).clear := by
  cases opened with
  | none => rfl
  | some cache =>
    obtain rfl := h cache rfl
    rw [cleanCache, run_bind, run_pure, Cache.clean, run_bind]
    change _ = run machine cache.store.clear
    generalize run machine cache.store.clear = outcome
    obtain ⟨result, after⟩ := outcome
    cases result <;> rfl

/-- What is told when a directory was emptied. -/
def removedLine (removed : Nat) (directory : Path) : String :=
  "removed " ++ toString removed ++ " entries from " ++ directory.text ++ "\n"

section Steps

variable {ε ε' α β : Type}

theorem run_lift (x : StateM Machine α) :
    run machine (ExceptT.lift x : ExceptT ε (StateM Machine) α).run =
      (.ok (run machine x).1, (run machine x).2) := rfl

theorem run_lift_bind (x : StateM Machine α) (f : α → ExceptT ε (StateM Machine) β) :
    run machine (ExceptT.lift x >>= f).run = run (run machine x).2 (f (run machine x).1).run := rfl

theorem run_mapError (machine : Machine) (x : StateM Machine (Except ε α)) (f : ε → ε') :
    run machine (ExceptT.mk do return (← x).mapError f : ExceptT ε' (StateM Machine) α).run =
      ((run machine x).1.mapError f, (run machine x).2) := rfl

theorem run_print (text : String) :
    run machine (Terminal.print text) = ((), { machine with output := text :: machine.output }) :=
  rfl

end Steps

/-- What is stored where a command looks for the cache of its project, once that is opened. -/
def storedOf (machine : Machine) (settings : Settings) (project : Project) :
    Except CacheError (Option Cache) × Machine :=
  run (run machine (openProject settings).run).2
    (openStored project.root (project.config.cacheDirectory project.root))

/-- A command on a cache goes on with what is stored, once the project is opened. -/
theorem run_opening {opened : Option Cache}
    (hopened : (storedOf machine settings project).1 = .ok opened) :
    run (run machine (openProject settings).run).2 (ExceptT.mk do
      return (← openStored project.root (project.config.cacheDirectory project.root)).mapError
        CommandError.cache : ExceptT CommandError (StateM Machine) (Option Cache)).run =
      (.ok opened, (storedOf machine settings project).2) := by
  rw [run_mapError]
  change ((storedOf machine settings project).1.mapError _, _) = _
  rw [hopened]
  rfl

/-- Looking into a cache changes nothing on the disk that opening it did not change. -/
theorem shown_of_stored {opened : Option Cache}
    (hproject : (run machine (openProject settings).run).1 = .ok project)
    (hopened : (storedOf machine settings project).1 = .ok opened) :
    (run machine (cacheCommand settings .status).run).1 = .ok () ∧
      Same (storedOf machine settings project).2
        (run machine (cacheCommand settings .status).run).2 := by
  have hstep := run_opening hopened
  rw [cacheCommand, run_bind_of_ok hproject, run_bind_of_ok (congrArg Prod.fst hstep), hstep]
  generalize (storedOf machine settings project).2 = stored
  cases opened with
  | none =>
    dsimp only
    rw [run_lift, run_print]
    exact ⟨rfl, rfl, rfl⟩
  | some cache =>
    dsimp only
    rw [run_lift_bind, run_status, run_lift, run_print]
    exact ⟨rfl, rfl, rfl⟩

/-- Emptying a cache tells at the end how many entries were removed after it was opened. -/
theorem cleaned_of_stored {opened : Option Cache} {removed : Nat}
    (hproject : (run machine (openProject settings).run).1 = .ok project)
    (hopened : (storedOf machine settings project).1 = .ok opened)
    (hdirectory : ∀ cache ∈ opened,
      cache.directory = project.config.cacheDirectory project.root)
    (hclear : (run (storedOf machine settings project).2
      (ModuleStore.mk (project.config.cacheDirectory project.root)).clear).1 = .ok removed) :
    (run machine (cacheCommand settings .clean).run).1 = .ok () ∧
      disk (run machine (cacheCommand settings .clean).run).2 =
        disk (run (storedOf machine settings project).2
          (ModuleStore.mk (project.config.cacheDirectory project.root)).clear).2 ∧
      (run machine (cacheCommand settings .clean).run).2.output.head? =
        some (removedLine removed (project.config.cacheDirectory project.root)) := by
  have hstep := run_opening hopened
  rw [cacheCommand, run_bind_of_ok hproject, run_bind_of_ok (congrArg Prod.fst hstep), hstep]
  generalize (storedOf machine settings project).2 = stored at hclear ⊢
  have hclean := run_mapError stored
    (cleanCache (project.config.cacheDirectory project.root) opened) CommandError.cache
  rw [run_cleanCache hdirectory, hclear] at hclean
  dsimp only
  rw [run_bind_of_ok (congrArg Prod.fst hclean), hclean, run_lift, run_print]
  exact ⟨rfl, rfl, rfl⟩

/-- A directory that cannot be found holds no index. -/
theorem current_of_missing (hnamed : directory.text ≠ "")
    (h : (disk machine).find (here machine) directory = .error .notFound) :
    Current machine directory := by
  intro index hread
  have hfound := isOk_find_of_indexIn hread
  cases hindex : (disk machine).find (here machine) (directory.join CacheIndex.fileName) with
  | error e =>
    rw [hindex] at hfound
    cases hfound
  | ok found =>
    obtain ⟨time, hdirectory⟩ := find_of_find_join hnamed (by decide) hindex
    rw [hdirectory] at h
    cases h

theorem Emptied.same {version : String} (h : Emptied machine directory version)
    (hsame : Same machine after) : Emptied after directory version := by
  constructor
  · rw [hsame.disk, hsame.here]
    exact h.document
  · rw [hsame.disk, hsame.here]
    exact h.files
  · rw [hsame.disk, hsame.here]
    exact h.nodes

/-- A directory that holds an empty index did not hold one of another format before, if it is the
same. -/
theorem current_of_emptied {version : String} (h : Emptied after directory version)
    (hdisk : disk after = disk machine) (hhere : here after = here machine) :
    Current machine directory := by
  intro index hread
  obtain ⟨document, hdocument, hindex⟩ := Option.bind_eq_some_iff.mp hread
  have hheld := contentAt_of_readText (ok_of_toOption hdocument)
  have hempty := h.document
  rw [hdisk, hhere, ← CacheIndex.spot_fileName, hheld] at hempty
  cases hempty
  rw [CacheIndex.read?_document (CacheIndex.wellFormed_empty version)] at hindex
  cases hindex
  rfl

theorem Same.heldIn_eq (h : Same machine after) (directory : Path) :
    heldIn after directory = heldIn machine directory := by
  rw [heldIn, heldIn, h.disk, h.here]

/-- A directory without an index of another format is left as it is when the cache is looked into,
and emptied when that is asked for. -/
theorem caching_of_current (hproject : (run machine (openProject settings).run).1 = .ok project)
    (husable : Usable machine (project.config.cacheDirectory project.root))
    (hcurrent : Current machine (project.config.cacheDirectory project.root)) :
    let directory := project.config.cacheDirectory project.root
    let shown := run machine (cacheCommand settings .status).run
    let cleaned := run machine (cacheCommand settings .clean).run
    (shown.1 = .ok () ∧ cleaned.1 = .ok ()) ∧ disk shown.2 = disk machine ∧
      (Listed machine directory → ∀ p, Below (spot (here machine) directory) p →
        (disk cleaned.2).node? p = none) ∧
      cleaned.2.output.head? = some (removedLine (heldIn machine directory) directory) := by
  have hsame : Same machine (run machine (openProject settings).run).2 :=
    reads_openProject settings machine
  obtain ⟨opened, hopened, hdirectory, hstored⟩ :=
    openStored_of_current (hcurrent.same hsame) project.root
  have hwhole : Same machine (storedOf machine settings project).2 := hsame.trans hstored
  obtain ⟨hshown, hafter⟩ := shown_of_stored hproject hopened
  obtain ⟨hcleaned, hdisk, hline⟩ :=
    cleaned_of_stored hproject hopened hdirectory (husable.same hwhole).clear
  rw [hwhole.heldIn_eq] at hline
  refine ⟨⟨hshown, hcleaned⟩, (hwhole.trans hafter).disk, fun hlisted p hp => ?_, hline⟩
  rw [hdisk]
  rw [← hwhole.here] at hp
  exact (hlisted.same hwhole).below_clear hp

/-- A directory with an index of another format is emptied for a new index when the cache is looked
into, and only that index is counted when the directory is emptied. -/
theorem caching_of_other (hproject : (run machine (openProject settings).run).1 = .ok project)
    (hlisted : Listed machine (project.config.cacheDirectory project.root))
    (hread : indexIn machine (project.config.cacheDirectory project.root) = some index)
    (hformat : index.version ≠ CacheIndex.formatVersion) :
    let directory := project.config.cacheDirectory project.root
    let shown := run machine (cacheCommand settings .status).run
    let cleaned := run machine (cacheCommand settings .clean).run
    (shown.1 = .ok () ∧ cleaned.1 = .ok ()) ∧ here shown.2 = here machine ∧
      Emptied shown.2 directory index.compilerVersion ∧
      (∀ p, Below (spot (here machine) directory) p → (disk cleaned.2).node? p = none) ∧
      cleaned.2.output.head? = some (removedLine 1 directory) := by
  have hsame : Same machine (run machine (openProject settings).run).2 :=
    reads_openProject settings machine
  rw [← hsame.indexIn_eq] at hread
  obtain ⟨hopened, hhere, hstored, hnames, hemptied⟩ :=
    openStored_of_other (hlisted.same hsame) hread hformat project.root
  obtain ⟨hshown, hafter⟩ := shown_of_stored hproject hopened
  have hdirectory : ∀ cache ∈ some (Cache.mk project.root
      ⟨project.config.cacheDirectory project.root⟩ index.compilerVersion
        (.empty index.compilerVersion)),
      cache.directory = project.config.cacheDirectory project.root := by
    rintro _ ⟨⟩
    rfl
  have hclear : (run (storedOf machine settings project).2
      (ModuleStore.mk (project.config.cacheDirectory project.root)).clear).1 = .ok 1 := by
    rw [storedOf, hstored.clear.1, hnames]
    rfl
  obtain ⟨hcleaned, hdisk, hline⟩ := cleaned_of_stored hproject hopened hdirectory hclear
  refine ⟨⟨hshown, hcleaned⟩, ?_, hemptied.same hafter, fun p hp => ?_, hline⟩
  · rw [hafter.here, storedOf, hhere, hsame.here]
  · rw [hdisk]
    rw [← hsame.here, ← hhere] at hp
    exact hstored.below_clear hp

/-- Where no index of another format is read, looking into a cache leaves the disk as it is, and
emptying it tells how many entries its directory had. Otherwise looking into the cache empties its
directory for a new index, and emptying it tells of that index alone. Either way both succeed and
the directory is emptied. -/
theorem caching_commands_by_format
    (hproject : (run machine (openProject settings).run).1 = .ok project)
    (husable : Usable machine (project.config.cacheDirectory project.root)) :
    let directory := project.config.cacheDirectory project.root
    let shown := run machine (cacheCommand settings .status).run
    let cleaned := run machine (cacheCommand settings .clean).run
    (shown.1 = .ok () ∧ cleaned.1 = .ok ()) ∧
      (disk shown.2 = disk machine ↔ Current machine directory) ∧
      (∀ index ∈ indexIn machine directory, index.version ≠ CacheIndex.formatVersion →
        Emptied shown.2 directory index.compilerVersion) ∧
      (Listed machine directory → ∀ p, Below (spot (here machine) directory) p →
        (disk cleaned.2).node? p = none) ∧
      cleaned.2.output.head? = some (removedLine
        (if Current machine directory then heldIn machine directory else 1) directory) := by
  dsimp only
  by_cases hcurrent : Current machine (project.config.cacheDirectory project.root)
  · obtain ⟨hresults, hdisk, hgone, hline⟩ := caching_of_current hproject husable hcurrent
    rw [if_pos hcurrent]
    exact ⟨hresults, iff_of_true hdisk hcurrent,
      fun index hread hformat => absurd (hcurrent index hread) hformat, hgone, hline⟩
  · obtain ⟨index, hread, hformat⟩ : ∃ index ∈ indexIn machine
        (project.config.cacheDirectory project.root),
        index.version ≠ CacheIndex.formatVersion := by
      simpa [Current] using hcurrent
    have hlisted : Listed machine (project.config.cacheDirectory project.root) := by
      refine husable.resolve_right fun hmissing => hcurrent (current_of_missing ?_ hmissing)
      exact named_cacheDirectory hproject
    obtain ⟨hresults, hhere, hemptied, hgone, hline⟩ :=
      caching_of_other hproject hlisted hread hformat
    rw [if_neg hcurrent]
    refine ⟨hresults, iff_of_false (fun hdisk => ?_) hcurrent, fun other hother _ => ?_,
      fun _ => hgone, hline⟩
    · exact hcurrent (current_of_emptied hemptied hdisk hhere)
    · obtain rfl := Option.some.inj (hread.symm.trans hother)
      exact hemptied

/-- A project with one module in its cache, and an index there. -/
def shelved (index : CacheIndex) : Machine where
  disk := ⟨[(["p"], .directory ⟨1, 0⟩), (["p", "node_modules"], .directory ⟨1, 0⟩),
    (["p", "node_modules", ".cache"], .directory ⟨1, 0⟩),
    (["p", "node_modules", ".cache", "revue"], .directory ⟨1, 0⟩),
    (["p", "node_modules", ".cache", "revue", "revue.json"], .file (.text index.document) ⟨2, 0⟩),
    (["p", "node_modules", ".cache", "revue", "App.vue"], .file (.text "module") ⟨3, 0⟩)]⟩
  here := ["p"]

theorem listed_shelved : Listed (shelved (.empty "3")) ⟨"/p/node_modules/.cache/revue"⟩ := by
  have hfind : (disk (shelved (.empty "3"))).find (here (shelved (.empty "3")))
      ⟨"/p/node_modules/.cache/revue"⟩ =
        .ok (["p", "node_modules", ".cache", "revue"], .directory ⟨1, 0⟩) := rfl
  refine ⟨sound_of_entries ?_, ⟨leads_of_find hfind, ?_⟩, by decide, ?_⟩
  · decide +kernel
  · decide +kernel
  · decide +kernel

theorem exists_project_shelved : ∃ project : Project,
    (run (shelved (.empty "3")) (openProject {}).run).1 = .ok project ∧
      project.config.cacheDirectory project.root = ⟨"/p/node_modules/.cache/revue"⟩ := by
  have hdirectory : ((run (shelved (.empty "3")) (openProject {}).run).1.toOption.map fun project =>
      project.config.cacheDirectory project.root) = some ⟨"/p/node_modules/.cache/revue"⟩ := by
    decide +kernel
  exact exists_ok_of_toOption hdirectory

/-- With an index of the format in use, looking into the cache changes nothing, and emptying it
tells of the index and the module. -/
theorem caching_commands_by_format_of_one_module :
    let machine := shelved (.empty "3")
    disk (run machine (cacheCommand {} .status).run).2 = disk machine ∧
      (run machine (cacheCommand {} .clean).run).2.output.head? =
        some "removed 2 entries from /p/node_modules/.cache/revue\n" := by
  obtain ⟨project, hproject, hdirectory⟩ := exists_project_shelved
  have husable : Usable (shelved (.empty "3")) (project.config.cacheDirectory project.root) := by
    rw [hdirectory]
    exact .inl listed_shelved
  have hcurrent : Current (shelved (.empty "3")) ⟨"/p/node_modules/.cache/revue"⟩ := by
    decide +kernel
  have hheld : heldIn (shelved (.empty "3")) ⟨"/p/node_modules/.cache/revue"⟩ = 2 := by
    decide +kernel
  obtain ⟨-, hshown, -, -, hline⟩ := caching_commands_by_format hproject husable
  rw [hdirectory] at hshown hline
  rw [if_pos hcurrent, hheld] at hline
  exact ⟨hshown.mpr hcurrent, hline⟩

/-- An index of an older format is lost with the module when the cache is looked into. Emptying the
cache tells of one entry, though there were two. -/
theorem module_lost_in_status :
    let machine := shelved ⟨1, "3", []⟩
    let place := ["p", "node_modules", ".cache", "revue", "App.vue"]
    (disk machine).contentAt place = some (.text "module") ∧
      (run machine (cacheCommand {} .status).run).1.isOk ∧
      (disk (run machine (cacheCommand {} .status).run).2).contentAt place = none ∧
      heldIn machine ⟨"/p/node_modules/.cache/revue"⟩ = 2 ∧
      (run machine (cacheCommand {} .clean).run).1.isOk ∧
      (run machine (cacheCommand {} .clean).run).2.output.head? =
        some "removed 1 entries from /p/node_modules/.cache/revue\n" := by
  decide +kernel

end Commands

end Host
end ComponentCompiler
