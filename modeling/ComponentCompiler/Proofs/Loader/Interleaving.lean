import ComponentCompiler.Proofs.Loader.Steps

/-!
# Edits between the steps of a call

A fingerprint tells what the files were when it was taken, which need not be what the module was
made from. As long as each fingerprint is taken of files that have not been edited since they were
read (`Build.Steady`), what is stored for the component was made from files with the times of its
fingerprint, and by these times a file tells whether it still holds the same (`Traced`, which every
step preserves). So a later call gives a module that was made from what the files hold
(`load_of_current_files`). Without that condition it need not (`load_of_overwritten_text`).
-/

namespace ComponentCompiler

open Disk

namespace Host

section Histories

variable {σ : Type} [Files (StateM σ)] [Journal (StateM σ)] [Host σ]
variable {w : Setting} {builder : Builder (StateM σ)} {m m' start : Moment σ} {build : Build σ}

section Invariant

/-- What is known of a build: the text was read in the component, and the files that the module
depends on are outside the cache. -/
structure Build.Genuine (w : Setting) (builder : Builder (StateM σ)) (seen : List σ)
    (build : Build σ) : Prop where
  read : build.read ∈ seen
  start : build.start ∈ seen
  text : ∃ time, (disk build.read).find w.home w.file =
    .ok (spot w.home w.file, .file (.text build.source) time)
  answer : (run build.start (builder.build build.source w.file).run).1 = .ok build.result
  outside : ∀ path ∈ build.result.dependencies.externals, ¬w.area <+: spot w.home path

/-- What a fingerprint in the index is the fingerprint of. -/
structure Build.Vouched (w : Setting) (seen : List σ) (s : σ) (fingerprint : Fingerprint)
    (build : Build σ) (stamped : σ) : Prop where
  taken : stamped ∈ seen
  tells : fingerprint = fingerprintOf stamped w.root build.result.dependencies
  steady : build.Steady w stamped
  found : ∃ content time,
    (disk stamped).find w.home w.file = .ok (spot w.home w.file, .file content time)
  artifact : (disk s).contentAt w.artifact = some (.text build.result.code)

/-- What is known while a call has come so far. -/
def Phase.Traced (w : Setting) (builds : List (Build σ)) (seen : List σ) (s : σ) : Phase σ → Prop
  | .idle => True
  | .read state source | .missed state source => state ∈ seen ∧
      ∃ time, (disk state).find w.home w.file =
        .ok (spot w.home w.file, .file (.text source) time)
  | .built build => build ∈ builds
  | .written build => build ∈ builds ∧
      (disk s).contentAt w.artifact = some (.text build.result.code)

/-- What holds of the states and of the builds up to a moment. -/
structure Tracked (w : Setting) (builder : Builder (StateM σ)) (m : Moment σ) : Prop where
  root : m.cache.root = w.root
  directory : m.cache.directory = w.directory
  home : here m.host = w.home
  carried : ∀ earlier ∈ m.seen, Carries earlier m.host
  tells : ∀ s ∈ m.seen, ∀ s' ∈ m.seen, ∀ p, ¬w.area <+: p → Tells s s' p
  builds : ∀ build ∈ m.builds, build.Genuine w builder m.seen

/-- What holds at every moment. -/
structure Traced (w : Setting) (builder : Builder (StateM σ)) (m : Moment σ) : Prop
    extends Tracked w builder m where
  phase : m.phase.Traced w m.builds m.seen m.host
  /-- But for a module that is written and has no fingerprint yet, what is stored for the component
  is what the index says. -/
  entry : (∀ build, m.phase ≠ .written build) → ∀ fingerprint,
    Keyed.get? w.key m.cache.index.entries = some fingerprint →
      ∃ build ∈ m.builds, ∃ stamped, Build.Vouched w m.seen m.host fingerprint build stamped

theorem Start.traced (h : Start w m) : Traced w builder m where
  root := h.root
  directory := h.directory
  home := h.home
  carried := by
    rw [Moment.seen, h.past]
    intro earlier hearlier
    rw [List.mem_singleton.mp hearlier]
    exact .refl _
  tells := by
    rw [Moment.seen, h.past]
    intro s hs s' hs' p _
    rw [List.mem_singleton.mp hs, List.mem_singleton.mp hs']
    exact tells_self _ p
  builds := by
    rw [h.builds]
    nofun
  phase := by
    rw [h.phase]
    trivial
  entry _ fingerprint hentry := by
    rw [h.fresh] at hentry
    cases hentry

variable {after : σ}

section Builds

variable {seen : List σ}

theorem Build.Genuine.cons (h : build.Genuine w builder seen) (after : σ) :
    build.Genuine w builder (after :: seen) :=
  { h with
    read := List.mem_cons_of_mem _ h.read
    start := List.mem_cons_of_mem _ h.start }

theorem Build.Genuine.component (h : build.Genuine w builder seen) :
    build.result.dependencies.component = w.file :=
  (Builder.dependencies_of_build (yields_of_run h.answer)).1

/-- A component whose text was read is not the root of the disk, so it has a directory, from which
its external files are found. -/
theorem Build.Genuine.isAbsolute (h : build.Genuine w builder seen) :
    ∀ path ∈ build.result.dependencies.externals, path.isAbsolute := by
  refine Builder.isAbsolute_of_build (yields_of_run h.answer) w.file_absolute ?_
  intro hparts
  obtain ⟨time, hfind⟩ := h.text
  obtain ⟨-, hnode⟩ := find_eq_ok hfind
  rw [spot_of_isAbsolute w.file_absolute, hparts] at hnode
  cases hnode

theorem Build.Vouched.cons {s : σ} {fingerprint : Fingerprint} {stamped : σ}
    (h : Build.Vouched w seen s fingerprint build stamped)
    (hartifact : (disk after).contentAt w.artifact = (disk s).contentAt w.artifact) :
    Build.Vouched w (after :: seen) after fingerprint build stamped :=
  { h with
    taken := List.mem_cons_of_mem _ h.taken
    artifact := hartifact.trans h.artifact }

theorem Phase.Traced.cons {phase : Phase σ} {builds : List (Build σ)} {s : σ}
    (h : phase.Traced w builds seen s)
    (hartifact : (disk after).contentAt w.artifact = (disk s).contentAt w.artifact) :
    phase.Traced w builds (after :: seen) after := by
  cases phase with
  | idle => trivial
  | read state source => exact ⟨List.mem_cons_of_mem _ h.1, h.2⟩
  | missed state source => exact ⟨List.mem_cons_of_mem _ h.1, h.2⟩
  | built build => exact h
  | written build => exact ⟨h.1, hartifact.trans h.2⟩

end Builds

section Moments

variable {names : List String} {ε α : Type} {result : Except ε α} {text : String}

/-- A change that carries everything on and keeps what the files tell. -/
theorem Tracked.next (h : Tracked w builder m) (hcarries : Carries m.host after)
    (htells : ∀ p, ¬w.area <+: p → ∀ s ∈ m.seen, Tells s after p) :
    Tracked w builder (m.next after) where
  root := h.root
  directory := h.directory
  home := hcarries.here.trans h.home
  carried := by
    intro earlier hearlier
    rcases List.mem_cons.mp hearlier with rfl | hearlier
    · exact .refl _
    · exact (h.carried earlier hearlier).trans hcarries
  tells := by
    intro s hs s' hs' p hp
    rcases List.mem_cons.mp hs with rfl | hs
    · rcases List.mem_cons.mp hs' with rfl | hs'
      · exact tells_self _ p
      · exact (htells p hp s' hs').symm
    · rcases List.mem_cons.mp hs' with rfl | hs'
      · exact htells p hp s hs
      · exact h.tells s hs s' hs' p hp
  builds build hbuild := (h.builds build hbuild).cons after

/-- A change of files of the cache. -/
theorem Tracked.leave (h : Tracked w builder m) (hcarries : Carries m.host after)
    (hfiles : ∀ p, ¬w.area <+: p → (disk after).fileAt p = (disk m.host).fileAt p) :
    Tracked w builder (m.next after) :=
  h.next hcarries
    fun p hp s hs => (h.tells s hs m.host List.mem_cons_self p hp).of_eq (hfiles p hp)

theorem Tracked.stores (h : Tracked w builder m)
    (hstores : Stores m.host (w.area ++ names) text result after) :
    Tracked w builder (m.next after) := by
  refine h.leave hstores.carries fun p hp => hstores.fileAt_eq ?_
  rintro rfl
  exact hp (List.prefix_append _ _)

theorem Tracked.here_of_mem (h : Tracked w builder m) {s : σ} (hs : s ∈ m.seen) :
    here s = w.home := (h.carried s hs).here.symm.trans h.home

theorem Tracked.keyOf (h : Tracked w builder m) : m.cache.keyOf w.file = w.key := by
  rw [Cache.keyOf, h.root]
  rfl

/-- Whatever happens, as long as the module of the component is not touched. -/
theorem Traced.next (h : Traced w builder m) (htracked : Tracked w builder (m.next after))
    (hartifact : (disk after).contentAt w.artifact = (disk m.host).contentAt w.artifact) :
    Traced w builder (m.next after) where
  toTracked := htracked
  phase := h.phase.cons hartifact
  entry hphase fingerprint hentry := by
    obtain ⟨build, hbuild, stamped, hvouched⟩ := h.entry hphase fingerprint hentry
    exact ⟨build, hbuild, stamped, hvouched.cons hartifact⟩

theorem Traced.same (h : Traced w builder m) (hsame : Same m.host after) :
    Traced w builder (m.next after) :=
  h.next (h.toTracked.leave hsame.kept.carries fun p _ => by rw [hsame.disk]) (by rw [hsame.disk])

/-- Another file of the cache is written, or cannot be. -/
theorem Traced.stores (h : Traced w builder m)
    (hstores : Stores m.host (w.area ++ names) text result after)
    (hnames : ModuleStore.names w.key ≠ names) : Traced w builder (m.next after) := by
  refine h.next (h.toTracked.stores hstores) ?_
  rw [contentAt_eq_map, contentAt_eq_map, hstores.fileAt_eq]
  exact fun hartifact => hnames (List.append_cancel_left hartifact)

/-- A call comes to another point. -/
theorem Traced.goOn (h : Traced w builder m) {phase : Phase σ}
    (hphase : phase.Traced w m.builds m.seen m.host)
    (hwritten : ∀ build, m.phase ≠ .written build) : Traced w builder { m with phase } :=
  { h with
    phase := hphase
    entry := fun _ => h.entry hwritten }

theorem Traced.finish (h : Traced w builder m) (hgenuine : build.Genuine w builder m.seen)
    (hwritten : ∀ build, m.phase ≠ .written build) :
    Traced w builder { m with phase := .built build, builds := build :: m.builds } where
  toTracked := { h with
    builds := fun other hother => by
      rcases List.mem_cons.mp hother with rfl | hother
      · exact hgenuine
      · exact h.builds other hother }
  phase := List.mem_cons_self
  entry _ fingerprint hentry := by
    obtain ⟨other, hother, hvouched⟩ := h.entry hwritten fingerprint hentry
    exact ⟨other, List.mem_cons_of_mem _ hother, hvouched⟩

/-- Once its module is written, what the index says of the component says nothing. -/
theorem Traced.write (h : Traced w builder m) (hbuild : build ∈ m.builds)
    (hstores : Stores m.host w.artifact build.result.code result after) (hdone : result.isOk) :
    Traced w builder { m.next after with phase := .written build } where
  toTracked := { h.toTracked.stores hstores with }
  phase := ⟨hbuild, hstores.contentAt hdone⟩
  entry hwritten := absurd rfl (hwritten build)

/-- A module that cannot be written leaves the one that is stored. -/
theorem Traced.fail (h : Traced w builder m)
    (hstores : Stores m.host w.artifact build.result.code result after)
    (hfailed : result.isOk = false) : Traced w builder (m.next after) := by
  refine h.next (h.toTracked.stores hstores) ?_
  rw [contentAt_eq_map, contentAt_eq_map, ((hstores.failed hfailed).nodes _).fileAt_eq]

/-- The fingerprint of a module that is written is put into the index. -/
theorem Traced.stamp (h : Traced w builder m) (hphase : m.phase = .written build)
    (hsteady : build.Steady w m.host) : Traced w builder { m with
      phase := .idle
      cache := stamped m.host m.cache build.result.dependencies } := by
  have hwritten := h.phase
  rw [hphase] at hwritten
  obtain ⟨hbuild, hartifact⟩ := hwritten
  have hgenuine := h.builds build hbuild
  obtain ⟨time, hfind⟩ := hgenuine.text
  have hhere := h.here_of_mem hgenuine.read
  rw [← hhere] at hfind
  have hfound := (h.carried build.read hgenuine.read).find hfind
  rw [h.home, hhere] at hfound
  exact {
    root := h.root
    directory := h.directory
    home := h.home
    carried := h.carried
    tells := h.tells
    builds := h.builds
    phase := trivial
    entry := fun _ fingerprint hentry => by
      rw [stamped, Keyed.get?_insert, hgenuine.component, h.keyOf, if_pos rfl, h.root] at hentry
      exact ⟨build, hbuild, m.host, List.mem_cons_self, (Option.some.inj hentry).symm, hsteady,
        hfound, hartifact⟩ }

/-- Entries of other components say nothing of this one. -/
theorem Traced.reindex (h : Traced w builder m) {files : Dependencies} (s : σ)
    (hkey : m.cache.keyOf files.component ≠ w.key) :
    Traced w builder { m with cache := stamped s m.cache files } :=
  { h with
    entry := fun hwritten fingerprint hentry => by
      rw [stamped, Keyed.get?_insert, if_neg hkey.symm] at hentry
      exact h.entry hwritten fingerprint hentry }

end Moments

section Steps

theorem Edited.carries {p : Place} {held : Content × Timestamp} (h : Edited m.host after p held) :
    Carries m.host after where
  directories q hq := by
    by_cases hp : q = p
    · rw [hp] at hq
      have hfile := h.file
      rw [hq.fileAt_eq_none] at hfile
      cases hfile
    · rwa [IsDirectory, h.others q hp]
  files q hq := by
    by_cases hp : q = p
    · rw [hp, fileAt, h.node]
      rfl
    · rwa [fileAt, h.others q hp]
  here := h.here

theorem Edited.fileAt_eq {p q : Place} {held : Content × Timestamp} (h : Edited m.host after p held)
    (hq : q ≠ p) : (disk after).fileAt q = (disk m.host).fileAt q := by
  rw [fileAt, fileAt, h.others q hq]

/-- An edit with a time that the file never had tells that the file was edited. -/
theorem Traced.edit (h : Traced w builder m) {p : Place} {held : Content × Timestamp}
    (hedit : Edited m.host after p held) (houtside : ¬w.area <+: p)
    (hfresh : ∀ earlier ∈ m.seen, ∀ old, (disk earlier).fileAt p = some old →
      old.2.milliseconds? ≠ held.2.milliseconds?) : Traced w builder (m.next after) := by
  refine h.next (h.toTracked.next hedit.carries fun q hq s hs => ?_) ?_
  · by_cases hp : q = p
    · rw [hp]
      intro old new hold hnew htime
      rw [fileAt, hedit.node] at hnew
      cases hnew
      exact absurd htime (hfresh s hs old hold)
    · exact (h.tells s hs m.host List.mem_cons_self q hq).of_eq (hedit.fileAt_eq hp)
  · rw [contentAt_eq_map, contentAt_eq_map, hedit.fileAt_eq]
    rintro rfl
    exact houtside (List.prefix_append _ _)

/-- Where the files of the cache are. -/
theorem Tracked.area (h : Tracked w builder m) : spot (here m.host) m.cache.directory = w.area := by
  rw [h.home, h.directory]
  rfl

/-- Every step keeps what is known. -/
theorem Traced.step (hfiles : builder.LeavesFiles) (h : Traced w builder m)
    (hstep : Step w builder (Build.Steady w) m m') : Traced w builder m' := by
  cases hstep with
  | told after same => exact h.same same
  | read source phase text =>
    refine h.goOn ⟨List.mem_cons_self, ?_⟩ (by simp [phase])
    rw [← h.home]
    exact find_of_readText text
  | served seen source code phase hit =>
    exact (h.same (same_get? m.host m.cache w.file)).goOn trivial (by simp [Moment.next, phase])
  | missed seen source phase miss =>
    have hsame := h.same (same_get? m.host m.cache w.file)
    have hread := hsame.phase
    rw [Moment.next, phase] at hread
    exact hsame.goOn hread (by simp [Moment.next, phase])
  | built seen source result phase answer outside =>
    have hsame := h.same (hfiles.reads_build source w.file m.host)
    have hmissed := h.phase
    rw [phase] at hmissed
    have hgenuine : Build.Genuine w builder m.seen ⟨seen, source, m.host, result⟩ :=
      ⟨hmissed.1, List.mem_cons_self, hmissed.2, answer, outside⟩
    exact hsame.finish (hgenuine.cons _) (by simp [Moment.next, phase])
  | refused seen source e phase answer =>
    have hsame := h.same (hfiles.reads_build source w.file m.host)
    exact hsame.goOn trivial (by simp [Moment.next, phase])
  | written build phase done =>
    have hbuild := h.phase
    rw [phase] at hbuild
    have hstores := stores_textWritten m.host m.cache build.result.dependencies build.result.code
    generalize textWritten m.host m.cache build.result.dependencies build.result.code = outcome
      at done hstores ⊢
    rw [h.toTracked.area, (h.builds build hbuild).component, h.toTracked.keyOf] at hstores
    exact h.write hbuild hstores done
  | unwritten build phase failed =>
    have hbuild := h.phase
    rw [phase] at hbuild
    have hstores := stores_textWritten m.host m.cache build.result.dependencies build.result.code
    generalize textWritten m.host m.cache build.result.dependencies build.result.code = outcome
      at failed hstores ⊢
    rw [h.toTracked.area, (h.builds build hbuild).component, h.toTracked.keyOf] at hstores
    exact (h.fail hstores failed).goOn trivial (by simp [Moment.next, phase])
  | stamped build phase fair =>
    have hstores := stores_save m.host (stamped m.host m.cache build.result.dependencies).index
      m.cache.directory
    rw [run_stamp]
    rw [h.toTracked.area] at hstores
    exact (h.stamp phase fair).stores hstores w.named
  | otherWritten files content other =>
    have hstores := stores_textWritten m.host m.cache files content
    rw [h.toTracked.area] at hstores
    exact h.stores hstores other.symm
  | otherStamped files other =>
    have hstores := stores_save m.host (stamped m.host m.cache files).index m.cache.directory
    have hkey : m.cache.keyOf files.component ≠ w.key := fun hkey => other (by rw [hkey])
    rw [run_stamp]
    rw [h.toTracked.area] at hstores
    exact (h.reindex m.host hkey).stores hstores w.named
  | edited after p held edit outside fresh => exact h.edit edit outside fresh

end Steps

end Invariant

theorem Start.traced_of_steps (hfiles : builder.LeavesFiles) (h : Start w start)
    (hsteps : Relation.ReflTransGen (Step w builder (Build.Steady w)) start m) :
    Traced w builder m := by
  induction hsteps with
  | refl => exact h.traced
  | tail _ hstep ih => exact .step hfiles ih hstep

section Fresh

variable {fingerprint : Fingerprint} {stamped : σ} {source : String} {path : Path}

/-- A component that has the time of its fingerprint holds the text that was built. -/
theorem Build.Vouched.source_eq (h : Build.Vouched w m.seen m.host fingerprint build stamped)
    (htracked : Tracked w builder m) (hgenuine : build.Genuine w builder m.seen)
    (htext : (disk m.host).readText (here m.host) w.file = .ok source)
    (htime : timeOf m.host w.file = timeOf stamped w.file) : build.source = source := by
  obtain ⟨now, hnow⟩ := find_of_readText htext
  obtain ⟨content, taken, htaken⟩ := h.found
  obtain ⟨read, hread⟩ := hgenuine.text
  have htakenFile := fileAt_of_find htaken
  have hreadFile := fileAt_of_find hread
  rw [← htracked.here_of_mem h.taken] at htaken
  rw [timeOf_of_find hnow, timeOf_of_find htaken] at htime
  have htells := htracked.tells stamped h.taken m.host List.mem_cons_self _ w.outside
  have hcontent : content = .text source := by
    rw [htracked.home] at hnow
    exact htells (content, taken) (.text source, now) htakenFile (fileAt_of_find hnow) htime.symm
  rw [h.steady.component, hreadFile, hcontent] at htakenFile
  cases htakenFile
  rfl

/-- An external file that has the time of its fingerprint holds what the build read. -/
theorem Build.Vouched.contentAt_eq (h : Build.Vouched w m.seen m.host fingerprint build stamped)
    (htracked : Tracked w builder m) (hgenuine : build.Genuine w builder m.seen)
    (hpath : path ∈ build.result.dependencies.externals)
    (htime : timeOf m.host (w.root.join ⟨w.root.stored path⟩) = timeOf stamped path) :
    (disk m.host).contentAt (spot w.home path) =
      (disk build.start).contentAt (spot w.home path) := by
  have habsolute := hgenuine.isAbsolute path hpath
  have hspot : spot w.home (w.root.join ⟨w.root.stored path⟩) = spot w.home path := by
    rw [spot_of_isAbsolute (Path.isAbsolute_join w.root_absolute _), spot_of_isAbsolute habsolute,
      Path.parts_join_stored w.root_absolute habsolute]
  have hcarries := htracked.carried stamped h.taken
  have htimed := h.steady.timed path hpath
  have htells := htracked.tells stamped h.taken m.host List.mem_cons_self _
    (hgenuine.outside path hpath)
  rw [contentAt_eq_map, contentAt_eq_map, ← h.steady.externals path hpath]
  cases htaken : (disk stamped).fileAt (spot w.home path) with
  | none =>
    rw [← htracked.here_of_mem h.taken] at htaken
    have hdirectory := hcarries.directories _ (isDirectory_of_timeOf htaken htimed)
    rw [htracked.here_of_mem h.taken] at hdirectory
    rw [hdirectory.fileAt_eq_none]
  | some held =>
    obtain ⟨held', hnow⟩ := Option.isSome_iff_exists.mp (hcarries.files _ (by rw [htaken]; rfl))
    have hthen : timeOf stamped path = held.2.milliseconds? := by
      refine timeOf_of_fileAt ?_ htimed
      rw [htracked.here_of_mem h.taken, htaken]
    have hlater : timeOf m.host (w.root.join ⟨w.root.stored path⟩) = held'.2.milliseconds? := by
      refine timeOf_of_fileAt ?_ (by rw [htime]; exact htimed)
      rw [htracked.home, hspot, hnow]
    rw [hnow, Option.map_some, Option.map_some,
      htells held held' htaken hnow (by rw [← hthen, ← hlater, htime])]

end Fresh

section Loads

variable {source code : String}

/-- A module of the component that was made from what the files hold: by a build of the text of the
component in a state in which the external files that were read held what they hold. -/
def MadeFromCurrent (w : Setting) (builder : Builder (StateM σ)) (m : Moment σ)
    (source code : String) : Prop :=
  ∃ s built, (s ∈ m.seen ∨ Same m.host s) ∧
    (run s (builder.build source w.file).run).1 = .ok built ∧ built.code = code ∧
    ∀ path ∈ built.dependencies.externals,
      (disk m.host).contentAt (spot w.home path) = (disk s).contentAt (spot w.home path)

/-- What the cache gives for the component was made from what the files hold. -/
theorem Traced.of_get? (h : Traced w builder m) (hidle : m.phase = .idle)
    (htext : (disk m.host).readText (here m.host) w.file = .ok source)
    (hget : (run m.host (m.cache.get? w.file)).1 = some code) :
    MadeFromCurrent w builder m source code := by
  obtain ⟨hfresh, hread⟩ := of_get?_eq_some hget
  obtain ⟨fingerprint, hentry⟩ : ∃ fingerprint,
      Keyed.get? w.key m.cache.index.entries = some fingerprint := by
    rw [run_isFresh, h.keyOf] at hfresh
    cases hentry : Keyed.get? w.key m.cache.index.entries with
    | none =>
      rw [hentry] at hfresh
      cases hfresh
    | some fingerprint => exact ⟨fingerprint, rfl⟩
  obtain ⟨build, hbuild, stamped, hvouched⟩ := h.entry (by rw [hidle]; nofun) fingerprint hentry
  have hgenuine := h.builds build hbuild
  have hcomponent := hgenuine.component
  have htaken : Keyed.get? (m.cache.keyOf build.result.dependencies.component)
      m.cache.index.entries =
        some (fingerprintOf stamped m.cache.root build.result.dependencies) := by
    rw [hcomponent, h.keyOf, h.root, hentry, hvouched.tells]
  obtain ⟨htime, htimes⟩ := times_of_isFresh (by rw [h.root]; exact w.root_absolute)
    (by rw [hcomponent]; exact w.file_absolute)
    (fun path hpath => ⟨hgenuine.isAbsolute path hpath, hvouched.steady.timed path hpath⟩) htaken
    (by rw [hcomponent]; exact hfresh)
  rw [hcomponent] at htime
  rw [h.root] at htimes
  have hcode : build.result.code = code := by
    have hcontent := contentAt_of_readText hread
    have hdirectory : m.cache.store.directory = w.directory := h.directory
    rw [ModuleStore.spot_path, h.keyOf, h.home, hdirectory] at hcontent
    have hartifact := hvouched.artifact
    rw [Setting.artifact, Setting.area, hcontent] at hartifact
    cases hartifact
    rfl
  refine ⟨build.start, build.result, .inl hgenuine.start, ?_, hcode, fun path hpath =>
    hvouched.contentAt_eq h.toTracked hgenuine hpath (htimes path hpath)⟩
  rw [← hvouched.source_eq h.toTracked hgenuine htext htime]
  exact hgenuine.answer

theorem MadeFromCurrent.of_next {after : σ} (hsame : Same m.host after)
    (h : MadeFromCurrent w builder (m.next after) source code) :
    MadeFromCurrent w builder m source code := by
  obtain ⟨s, built, hs, hanswer, hcode, hexternals⟩ := h
  refine ⟨s, built, ?_, hanswer, hcode, fun path hpath => ?_⟩
  · rcases hs with hs | hs
    · rcases List.mem_cons.mp hs with rfl | hs
      · exact .inr hsame
      · exact .inl hs
    · exact .inr (hsame.trans hs)
  · rw [← hsame.disk]
    exact hexternals path hpath

variable [MonadStateOf LoaderState (StateM σ)] [LoaderHost σ] {l : Loader (StateM σ)}

/-- No stale module: whatever edits come between the steps of the calls for a component, as long as
each fingerprint is taken of files that were not edited since they were read, what a later call
gives for the text of the component was made from what the files hold. -/
theorem load_of_current_files (hfiles : l.builder.LeavesFiles) (hstart : Start w start)
    (hsteps : Relation.ReflTransGen (Step w l.builder (Build.Steady w)) start m)
    (hidle : m.phase = .idle) (hcaching : l.caching.isSome)
    (hbusy : (LoaderHost.loader m.host).busy = false)
    (hcache : (LoaderHost.loader m.host).cache = some m.cache)
    (htext : (disk m.host).readText (here m.host) w.file = .ok source)
    (hload : (run m.host (l.load source w.file)).1 = .ok code) :
    MadeFromCurrent w l.builder m source code := by
  have htraced := hstart.traced_of_steps hfiles hsteps
  rcases load_cases hcaching hbusy hcache hload with
    ⟨s, hsame, hget⟩ | ⟨s, built, hsame, hanswer, hcode⟩
  · refine .of_next hsame ((htraced.same hsame).of_get? hidle ?_ hget)
    rw [Moment.next, hsame.disk, hsame.here]
    exact htext
  · exact ⟨s, built, .inr hsame, hanswer, hcode, fun _ _ => by rw [hsame.disk]⟩

end Loads

end Histories

namespace Templated

/-- A builder of components that have their script inside; that of x has its template in a file. -/
def builder : Builder (StateM World) where
  compiler := {
    version := "2.7.0"
    parse source _ := return .ok { descriptor := {
      script := some { kind := .script, content := source }
      template :=
        if source = "x" then some { kind := .template, src := some "a.html" } else none } }
    compileScript descriptor _ :=
      return .ok (descriptor.script.map fun block => { content := block.content })
    compileTemplate task := return .ok { code := task.source } }
  version := ⟨"2.7.0", 2, 7, 0⟩
  variant := .legacy
  options := { format := .static }
  deliver := Record.announce

theorem leavesFiles_builder : builder.LeavesFiles where
  parse _ _ := reads_pure _
  compileScript _ _ := reads_pure _
  compileTemplate _ := reads_pure _
  transpile := nofun
  deliver _ := reads_record _

/-- The component of the example. -/
def setting : Setting where
  root := ⟨"/p"⟩
  directory := ⟨"/c"⟩
  file := ⟨"/p/App.vue"⟩
  home := []
  root_absolute := by decide
  file_absolute := by decide
  outside := by decide
  named := by decide

/-- Its script is x, and its template is a(). -/
def start : World where
  machine := { disk := ⟨[(["p"], .directory ⟨1, 0⟩),
    (["p", "App.vue"], .file (.text "x") ⟨10, 0⟩),
    (["p", "a.html"], .file (.text "a()") ⟨11, 0⟩)]⟩ }
  loader := ⟨false, some (opened ⟨"/p"⟩)⟩

/-- A file gets another text. -/
def rewritten (name text : String) (s : World) : World :=
  { s with machine.disk := s.machine.disk.put ["p", name] (.file (.text text) ⟨20, 0⟩) }

theorem edited_rewritten (s : World) (name text : String)
    (hfile : ((disk s).fileAt ["p", name]).isSome) :
    Edited s (rewritten name text s) ["p", name] (.text text, ⟨20, 0⟩) where
  file := hfile
  node := by
    change (s.machine.disk.put _ _).node? _ = _
    rw [node?_put _ (by simp), if_pos rfl]
  others q hq := by
    change (s.machine.disk.put _ _).node? _ = _
    rw [node?_put _ (by simp), if_neg hq]
    rfl
  here := rfl

/-- The module of the component with a template. -/
def module (template : String) : BuiltModule :=
  ⟨"x\n" ++ template ++ "\n", ⟨⟨"/p/App.vue"⟩, none, some ⟨"/p/a.html"⟩⟩⟩

/-- Nothing has happened yet. -/
def untouched : Moment World := { host := start, cache := opened ⟨"/p"⟩ }

/-- A call has read the component and found nothing in the cache. -/
def asked : Moment World :=
  { untouched.next (run start (untouched.cache.get? setting.file)).2 with
    phase := .missed start "x" }

/-- The build of a module, for what was read of the component at the start. -/
def buildAt (m : Moment World) (template : String) : Build World :=
  ⟨start, "x", m.host, module template⟩

def built (m : Moment World) (build : Build World) : Moment World :=
  { m.next (run m.host (builder.build "x" setting.file).run).2 with
    phase := .built build
    builds := build :: m.builds }

def stored (m : Moment World) (build : Build World) : Moment World :=
  { m.next (textWritten m.host m.cache build.result.dependencies build.result.code).2 with
    phase := .written build }

/-- The fingerprint was taken, and the loader keeps the cache. -/
def finished (m : Moment World) (build : Build World) : Moment World :=
  let after := run m.host (m.cache.stamp build.result.dependencies)
  let stamped : Moment World := { m.next after.2 with phase := .idle, cache := after.1.2 }
  stamped.next { after.2 with loader := ⟨false, some after.1.2⟩ }

variable {allowed : Build World → World → Prop} {m : Moment World}

theorem steps_asked : Relation.ReflTransGen (Step setting builder allowed) untouched asked := by
  refine .tail (.single (.read untouched "x" rfl ?_)) (.missed _ start "x" rfl ?_)
  · decide +kernel
  · decide +kernel

theorem steps_stored (template : String) (hphase : m.phase = .missed start "x")
    (hanswer : (run m.host (builder.build "x" setting.file).run).1 = .ok (module template))
    (hdone : (textWritten (built m (buildAt m template)).host m.cache
      (module template).dependencies (module template).code).1.isOk) :
    Relation.ReflTransGen (Step setting builder allowed) m
      (stored (built m (buildAt m template)) (buildAt m template)) := by
  refine .tail (.single (.built m start "x" (module template) hphase hanswer ?_))
    (.written _ _ rfl hdone)
  intro path hpath
  obtain rfl : path = ⟨"/p/a.html"⟩ := List.mem_singleton.mp hpath
  decide

theorem steps_finished {build : Build World} (hphase : m.phase = .written build)
    (hallowed : allowed build m.host) :
    Relation.ReflTransGen (Step setting builder allowed) m (finished m build) :=
  .tail (.single (.stamped m build hphase hallowed)) (.told _ _ ⟨rfl, rfl⟩)

theorem phase_finished (m : Moment World) (build : Build World) :
    (finished m build).phase = .idle := rfl

theorem loader_finished (m : Moment World) (build : Build World) :
    LoaderHost.loader (finished m build).host = ⟨false, some (finished m build).cache⟩ := rfl

def loader : Loader (StateM World) := ⟨builder, some ⟨⟨"/p"⟩, ⟨"/c"⟩⟩⟩

theorem start_untouched : Start setting untouched where
  root := rfl
  directory := rfl
  home := rfl
  fresh := rfl
  phase := rfl
  builds := rfl
  past := rfl

/-- The template is edited before the module is built. -/
def editedBefore : Moment World :=
  let m := asked
  let m := m.next (rewritten "a.html" "b()" m.host)
  let build := buildAt m "b()"
  finished (stored (built m build) build) build

/-- The component is edited after the module was built. -/
def editedAfter : Moment World :=
  let m := asked
  let build := buildAt m "a()"
  let m := stored (built m build) build
  finished (m.next (rewritten "App.vue" "y" m.host)) build

/-- A time is new for a file that all along had another one. -/
theorem fresh_of_all {p : Place} {time : Timestamp} (held : Content × Timestamp)
    (hseen : m.seen.all fun earlier => decide ((disk earlier).fileAt p = some held))
    (htime : held.2.milliseconds? ≠ time.milliseconds?) :
    ∀ earlier ∈ m.seen, ∀ old, (disk earlier).fileAt p = some old →
      old.2.milliseconds? ≠ time.milliseconds? := by
  intro earlier hearlier old hold
  rw [of_decide_eq_true (List.all_eq_true.mp hseen earlier hearlier)] at hold
  cases hold
  exact htime

end Templated

open Templated in
/-- A template that is edited after the component was read and before the module is built is in the
module, which is then served. -/
theorem load_of_current_files_of_template :
    (run editedBefore.host (loader.load "x" setting.file)).1 = .ok "x\nb()\n" ∧
      MadeFromCurrent setting builder editedBefore "x" "x\nb()\n" := by
  have hload : (run editedBefore.host (loader.load "x" setting.file)).1 = .ok "x\nb()\n" := by
    decide +kernel
  have hsteps : Relation.ReflTransGen (Step setting builder (Build.Steady setting)) untouched
      editedBefore := by
    refine steps_asked.trans ?_
    refine .head (.edited _ _ ["p", "a.html"] (.text "b()", ⟨20, 0⟩)
      (edited_rewritten _ _ _ (by decide +kernel)) (by decide)
      (fresh_of_all (.text "a()", ⟨11, 0⟩) ?_ ?_)) ?_
    · decide +kernel
    · decide +kernel
    refine (steps_stored "b()" rfl (by decide +kernel) (by decide +kernel)).trans
      (steps_finished rfl ⟨?_, ?_, ?_⟩)
    · decide +kernel
    · decide +kernel
    · decide +kernel
  have hloader : LoaderHost.loader editedBefore.host = ⟨false, some editedBefore.cache⟩ :=
    loader_finished _ _
  have htext : (disk editedBefore.host).readText (here editedBefore.host) setting.file =
      .ok "x" := by
    decide +kernel
  have hmade := load_of_current_files (l := loader) (w := setting) (m := editedBefore)
    leavesFiles_builder start_untouched hsteps (phase_finished _ _) rfl
    (by rw [hloader]) (by rw [hloader]) htext hload
  exact ⟨hload, hmade⟩

open Templated in
/-- If a component is edited after its module was built and before the fingerprint is taken, the
fingerprint has the time of a text that the module was not made from, and the module stays. -/
theorem load_of_overwritten_text :
    Start setting untouched ∧
      Relation.ReflTransGen (Step setting builder fun _ _ => True) untouched editedAfter ∧
      editedAfter.phase = .idle ∧
      (disk editedAfter.host).readText (here editedAfter.host) setting.file = .ok "y" ∧
      (run editedAfter.host (loader.load "y" setting.file)).1 = .ok "x\na()\n" ∧
      ¬MadeFromCurrent setting builder editedAfter "y" "x\na()\n" := by
  refine ⟨start_untouched, ?_, rfl, ?_, ?_, ?_⟩
  · refine steps_asked.trans ?_
    refine (steps_stored "a()" rfl (by decide +kernel) (by decide +kernel)).trans ?_
    refine .head (.edited _ _ ["p", "App.vue"] (.text "y", ⟨20, 0⟩)
      (edited_rewritten _ _ _ (by decide +kernel)) (by decide)
      (fresh_of_all (.text "x", ⟨10, 0⟩) ?_ ?_)) ?_
    · decide +kernel
    · decide +kernel
    · exact steps_finished rfl trivial
  · decide +kernel
  · decide +kernel
  · rintro ⟨s, built, -, hanswer, hcode, -⟩
    have hbuild : (run s (builder.build "y" setting.file).run).1 =
        .ok ⟨"y\n", ⟨setting.file, none, none⟩⟩ := rfl
    rw [hbuild] at hanswer
    cases hanswer
    revert hcode
    decide

end Host
end ComponentCompiler
