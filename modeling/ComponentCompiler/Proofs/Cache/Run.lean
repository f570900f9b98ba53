import ComponentCompiler.Proofs.Cache.Calls

/-!
# What a cache serves

A run is any sequence of calls of a cache that starts with an empty index, while others may change
files outside its directory. Its deeds, the last one first, are the texts that were written into the
directory since it was last emptied.

What is served for a file is the last text that was written at the names of its key
(`Run.get?_eq`). That is the last module that was stored for the file as long as nothing else was
written at these names; a key with the same names, the index under the key that is its name, and a
module whose index could not be written all break this.
-/

namespace ComponentCompiler

open Disk Machine

/-- A text that was written into the directory of a cache. -/
inductive Deed where
  /-- The text of a module under a key, and whether its fingerprint was recorded too. -/
  | stored (key content : String) (recorded : Bool)
  /-- The document of the index. -/
  | indexed (document : String)
  deriving DecidableEq, Repr

namespace Deed

def names : Deed → List String
  | stored key _ _ => ModuleStore.names key
  | indexed _ => CacheIndex.names

def text : Deed → String
  | stored _ content _ => content
  | indexed document => document

/-- The last deed at some names. -/
def lastAt (log : List Deed) (names : List String) : Option Deed :=
  log.find? fun deed => deed.names == names

/-- What a deed stored under a key, if it was recorded. -/
def recorded? (key : String) : Deed → Option String
  | stored k content true => if k = key then some content else none
  | _ => none

/-- The content that was last stored under a key and recorded. -/
def lastStored (log : List Deed) (key : String) : Option String :=
  log.findSome? (recorded? key)

/-- What storing a module wrote, told by the results of writing its text and of the whole call. -/
def ofPut (key content : String) :
    Except CacheError Path → Except CacheError Unit × Cache → List Deed
  | .error _, _ => []
  | .ok _, (.error _, _) => [stored key content false]
  | .ok _, (.ok _, cache) => [indexed cache.index.document, stored key content true]

variable {log : List Deed} {key : String} {names : List String} {before after : Machine}
  {place : Place}

theorem eq_of_recorded? {deed : Deed} {content : String}
    (h : deed.recorded? key = some content) : deed = stored key content true := by
  unfold recorded? at h
  split at h
  · split at h
    · rename_i hkey
      cases h
      rw [hkey]
    · cases h
  · cases h

/-- If only recorded modules under a key were written at its names, then the last text there is the
last of them. -/
theorem lastStored_eq_lastAt
    (h : ∀ deed ∈ log, deed.names = ModuleStore.names key → (deed.recorded? key).isSome) :
    lastStored log key = (lastAt log (ModuleStore.names key)).map text := by
  induction log with
  | nil => rfl
  | cons deed log ih =>
      have hrest := ih fun other hother => h other (List.mem_cons_of_mem deed hother)
      rw [lastStored, lastAt, List.findSome?_cons, List.find?_cons]
      cases hrecorded : deed.recorded? key with
      | some content =>
          obtain rfl := eq_of_recorded? hrecorded
          have hnames : (stored key content true).names = ModuleStore.names key := rfl
          rw [hnames, beq_self_eq_true]
          rfl
      | none =>
          have hnames : deed.names ≠ ModuleStore.names key := by
            intro hnames
            have hsome := h deed List.mem_cons_self hnames
            rw [hrecorded] at hsome
            cases hsome
          rw [beq_false_of_ne hnames]
          exact hrest

/-- Whatever was written at the names of a key after the module that was last stored under it, the
last of it is the text of this module again. -/
def Lasting (log : List Deed) (key : String) : Prop :=
  ∃ later content earlier, log = later ++ stored key content true :: earlier ∧
    (∀ deed ∈ later, deed.recorded? key = none) ∧
    ∀ deed, lastAt later (ModuleStore.names key) = some deed → deed.text = content

theorem lasting_iff : Lasting log key ↔ ∃ content, lastStored log key = some content ∧
    (lastAt log (ModuleStore.names key)).map text = some content := by
  have hlast {later earlier : List Deed} {content : String} :
      (lastAt (later ++ stored key content true :: earlier) (ModuleStore.names key)).map text =
        some (((lastAt later (ModuleStore.names key)).map text).getD content) := by
    have hnames : (stored key content true).names = ModuleStore.names key := rfl
    rw [lastAt, List.find?_append, List.find?_cons, hnames, beq_self_eq_true, ← lastAt]
    cases lastAt later (ModuleStore.names key) <;> rfl
  constructor
  · rintro ⟨later, content, earlier, rfl, hlater, hsame⟩
    refine ⟨content, List.findSome?_eq_some_iff.mpr
      ⟨later, _, earlier, rfl, if_pos rfl, hlater⟩, ?_⟩
    rw [hlast]
    cases hdeed : lastAt later (ModuleStore.names key) with
    | none => rfl
    | some deed => exact congrArg some (hsame deed hdeed)
  · rintro ⟨content, hstored, htext⟩
    obtain ⟨later, deed, earlier, rfl, hdeed, hlater⟩ := List.findSome?_eq_some_iff.mp hstored
    obtain rfl := eq_of_recorded? hdeed
    rw [hlast] at htext
    refine ⟨later, content, earlier, rfl, hlater, fun deed hdeed => ?_⟩
    rw [hdeed] at htext
    exact Option.some.inj htext

/-- The files at the names of deeds below a place hold the last texts, as far as they are
still there. -/
def Kept (log : List Deed) (machine : Machine) (place : Place) : Prop :=
  ∀ names deed content, lastAt log names = some deed →
    machine.disk.contentAt (place ++ names) = some content → content = .text deed.text

theorem Kept.nil (machine : Machine) (place : Place) : Kept [] machine place := by
  intro names deed content h
  cases h

theorem Kept.fewer (h : Kept log before place)
    (hfewer : ∀ names content, after.disk.contentAt (place ++ names) = some content →
      before.disk.contentAt (place ++ names) = some content) : Kept log after place :=
  fun names deed content hlast hcontent =>
    h names deed content hlast (hfewer names content hcontent)

/-- A deed that is done is the last one at its names and none elsewhere. -/
theorem Kept.cons (h : Kept log before place) (deed : Deed)
    (hwrote : Wrote before after (place ++ deed.names) deed.text) :
    Kept (deed :: log) after place := by
  intro names last content hlast hcontent
  rw [hwrote.contents] at hcontent
  rw [lastAt, List.find?_cons] at hlast
  by_cases hnames : deed.names = names
  · rw [hnames, beq_self_eq_true] at hlast
    rw [if_pos (by rw [hnames])] at hcontent
    cases hlast
    cases hcontent
    rfl
  · rw [beq_false_of_ne hnames] at hlast
    rw [if_neg fun heq => hnames (List.append_cancel_left heq).symm] at hcontent
    exact h names last content hlast hcontent

end Deed

namespace Cache

variable {machine machine' : Machine} {cache : Cache}

/-- What storing a module writes into the directory of a cache, the last text first. -/
def deeds (cache : Cache) (machine : Machine) (files : Dependencies) (content : String) :
    List Deed :=
  Deed.ofPut (cache.keyOf files.component) content (cache.written machine files content).1
    (machine.run (cache.put files content)).1

/-- Calls of a cache that starts with an empty index, and what they wrote since the directory was
last emptied. Between the calls others may do anything but write into the directory. -/
inductive Run : List Deed → Machine → Cache → Prop
  | start (machine : Machine) {cache : Cache} (h : cache.index.entries = []) : Run [] machine cache
  | put {log : List Deed} {machine : Machine} {cache : Cache} (run : Run log machine cache)
      (files : Dependencies) (content : String) :
      Run (cache.deeds machine files content ++ log) (machine.run (cache.put files content)).2
        (machine.run (cache.put files content)).1.2
  | get {log : List Deed} {machine : Machine} {cache : Cache} (run : Run log machine cache)
      (file : Path) : Run log (machine.run (cache.get? file)).2 cache
  /-- Emptying the directory; where that fails nothing is forgotten. -/
  | clean {log : List Deed} {machine : Machine} {cache : Cache} (run : Run log machine cache) :
      Run (if (machine.run cache.clean).1.1.isOk then [] else log) (machine.run cache.clean).2
        (machine.run cache.clean).1.2
  | elsewhere {log : List Deed} {machine : Machine} {cache : Cache} (run : Run log machine cache)
      {after : Machine} (here : after.here = machine.here)
      (contents : ∀ names content,
        after.disk.contentAt (spot machine.here cache.directory ++ names) = some content →
          machine.disk.contentAt (spot machine.here cache.directory ++ names) = some content) :
      Run log after cache

/-- What holds between the index of a cache, its directory, and what was written there. -/
structure Faithful (log : List Deed) (machine : Machine) (cache : Cache) : Prop where
  /-- Every module in the index was stored. -/
  indexed : ∀ key, (Keyed.get? key cache.index.entries).isSome →
    ∃ content recorded, Deed.stored key content recorded ∈ log
  /-- The files hold what was written to them last. -/
  kept : Deed.Kept log machine (spot machine.here cache.directory)

namespace Faithful

variable {log : List Deed}

theorem of_fewer (h : Faithful log machine cache) (here : machine'.here = machine.here)
    (contents : ∀ names content,
      machine'.disk.contentAt (spot machine.here cache.directory ++ names) = some content →
        machine.disk.contentAt (spot machine.here cache.directory ++ names) = some content) :
    Faithful log machine' cache := by
  refine ⟨h.indexed, ?_⟩
  rw [here]
  exact h.kept.fewer contents

theorem fewer (h : Faithful log machine cache) (hfewer : Fewer machine machine') :
    Faithful log machine' cache :=
  h.of_fewer hfewer.here fun _ => hfewer.contents _

/-- A module that is written but not in the index document. -/
theorem stored (h : Faithful log machine cache) {files : Dependencies} {content : String}
    {recorded : Bool} {middle : Machine}
    (hwrote : Wrote machine machine' (spot machine.here cache.directory ++
      ModuleStore.names (cache.keyOf files.component)) content) :
    Faithful (.stored (cache.keyOf files.component) content recorded :: log) machine'
      (cache.stamped middle files) := by
  refine ⟨fun key hkey => ?_, ?_⟩
  · rcases mem_index_stamped hkey with rfl | hold
    · exact ⟨content, recorded, List.mem_cons_self⟩
    · obtain ⟨content', recorded', hmem⟩ := h.indexed key hold
      exact ⟨content', recorded', List.mem_cons_of_mem _ hmem⟩
  · have hplace : spot machine'.here (cache.stamped middle files).directory =
        spot machine.here cache.directory := by
      rw [hwrote.here]
      rfl
    rw [hplace]
    exact h.kept.cons (.stored (cache.keyOf files.component) content recorded) hwrote

/-- The document of the index is written. -/
theorem saved (h : Faithful log machine cache) {document : String}
    (hwrote : Wrote machine machine' (spot machine.here cache.directory ++ CacheIndex.names)
      document) : Faithful (.indexed document :: log) machine' cache := by
  refine ⟨fun key hkey => ?_, ?_⟩
  · obtain ⟨content, recorded, hmem⟩ := h.indexed key hkey
    exact ⟨content, recorded, List.mem_cons_of_mem _ hmem⟩
  · rw [hwrote.here]
    exact h.kept.cons (.indexed document) hwrote

theorem put (h : Faithful log machine cache) (files : Dependencies) (content : String) :
    Faithful (cache.deeds machine files content ++ log) (machine.run (cache.put files content)).2
      (machine.run (cache.put files content)).1.2 := by
  rw [deeds]
  rcases Attempts.cases (attempts_written machine cache files content) with
    ⟨e, hresult, hquiet⟩ | ⟨path, hresult, hwrote⟩
  · rw [run_put_of_error hresult, hresult]
    dsimp only [Deed.ofPut]
    exact h.fewer hquiet.fewer
  · obtain ⟨middle, hmiddle, hput⟩ := run_put_of_ok hresult
    rw [hput, run_stamp, hresult]
    have hstored : ∀ recorded, Faithful (.stored (cache.keyOf files.component) content recorded ::
        log) middle (cache.stamped middle files) := fun recorded => h.stored (hwrote.quiet hmiddle)
    rcases Attempts.cases (CacheIndex.attempts_save middle (cache.stamped middle files).index
      cache.directory) with ⟨e, hsaved, hquiet⟩ | ⟨_, hsaved, hwritten⟩
    · rw [hsaved]
      dsimp only [Deed.ofPut]
      exact (hstored false).fewer hquiet.fewer
    · rw [hsaved]
      dsimp only [Deed.ofPut]
      exact (hstored true).saved hwritten

theorem clean (h : Faithful log machine cache) :
    Faithful (if (machine.run cache.clean).1.1.isOk then [] else log) (machine.run cache.clean).2
      (machine.run cache.clean).1.2 := by
  obtain ⟨hmachine, hcache⟩ := run_clean machine cache
  rw [hmachine, hcache]
  split
  · refine ⟨fun key hkey => ?_, .nil _ _⟩
    cases hkey
  · exact h.fewer (ModuleStore.fewer_clear machine cache.store)

end Faithful

namespace Run

variable {log : List Deed} {file : Path} {text : String}

theorem faithful (run : Run log machine cache) : Faithful log machine cache := by
  induction run with
  | start machine h =>
      refine ⟨fun key hkey => ?_, .nil _ _⟩
      rw [h] at hkey
      cases hkey
  | put run files content ih => exact ih.put files content
  | get run file ih => exact ih.fewer (quiet_get? _ _ file).fewer
  | clean run ih => exact ih.clean
  | elsewhere run here contents ih => exact ih.of_fewer here contents

/-- Opening a cache in a directory without an index starts a run. -/
theorem opened {root directory : Path} {compilerVersion : String}
    (habsent : Unindexed machine directory)
    (h : (machine.run (openAt root directory compilerVersion)).1 = .ok cache) :
    Run [] (machine.run (openAt root directory compilerVersion)).2 cache :=
  .start _ (entries_of_openAt habsent h)

/-- What is served for a file is the last text that was written at the names of its key. -/
theorem lastAt_of_get? (run : Run log machine cache)
    (h : (machine.run (cache.get? file)).1 = some text) :
    (Deed.lastAt log (ModuleStore.names (cache.keyOf file))).map Deed.text = some text := by
  obtain ⟨hindex, hcontent⟩ := of_get?_eq_some h
  obtain ⟨content, recorded, hmem⟩ := run.faithful.indexed _ hindex
  cases hlast : Deed.lastAt log (ModuleStore.names (cache.keyOf file)) with
  | none =>
      have hother := List.find?_eq_none.mp hlast _ hmem
      simp [Deed.names] at hother
  | some deed =>
      have htext := run.faithful.kept _ _ _ hlast hcontent
      cases htext
      rfl

/-- What is served for a file is the last text that was written at the names of its key. It is the
module that was last stored for the key exactly if whatever was written there later ends in the text
of this module, so it is if nothing but recorded modules under the key was written there. -/
theorem get?_eq (run : Run log machine cache) (h : (machine.run (cache.get? file)).1 = some text) :
    (Deed.lastAt log (ModuleStore.names (cache.keyOf file))).map Deed.text = some text ∧
      (Deed.lastStored log (cache.keyOf file) = some text ↔
        Deed.Lasting log (cache.keyOf file)) ∧
      ((∀ deed ∈ log, deed.names = ModuleStore.names (cache.keyOf file) →
          (deed.recorded? (cache.keyOf file)).isSome) →
        Deed.lastStored log (cache.keyOf file) = some text) := by
  have hlast := run.lastAt_of_get? h
  refine ⟨hlast, ?_, fun honly => ?_⟩
  · rw [Deed.lasting_iff, hlast]
    constructor
    · exact fun hstored => ⟨text, hstored, rfl⟩
    · rintro ⟨content, hstored, hcontent⟩
      cases hcontent
      exact hstored
  · rw [Deed.lastStored_eq_lastAt honly, hlast]

/-- Components with keys whose parts are names are served what was last stored for them, if none
of them has the name of the index and no index failed to be written. -/
theorem lastStored_of_plain (run : Run log machine cache)
    (h : (machine.run (cache.get? file)).1 = some text)
    (hlog : ∀ key content recorded, Deed.stored key content recorded ∈ log →
      ModuleStore.Plain key ∧ key ≠ "revue.json" ∧ recorded = true) :
    Deed.lastStored log (cache.keyOf file) = some text := by
  obtain ⟨content, recorded, hmem⟩ := run.faithful.indexed _ (of_get?_eq_some h).1
  obtain ⟨hplain, hname, -⟩ := hlog _ _ _ hmem
  rw [Deed.lastStored_eq_lastAt fun deed hdeed hnames => ?_, run.lastAt_of_get? h]
  cases deed with
  | stored key content recorded =>
      obtain ⟨hkey, -, rfl⟩ := hlog _ _ _ hdeed
      obtain rfl := ModuleStore.eq_of_names_eq hkey hplain hnames
      simp [Deed.recorded?]
  | indexed document =>
      have hindex : ModuleStore.names "revue.json" = ModuleStore.names (cache.keyOf file) := hnames
      exact absurd (ModuleStore.eq_of_names_eq (by decide) hplain hindex).symm hname

/-- A project, and beside its directory a component of the same name as one in it. -/
def neighbours : Machine where
  disk := ⟨[(["p"], .directory ⟨0, 0⟩), (["p", "App.vue"], .file (.text "") ⟨1, 0⟩),
    (["App.vue"], .file (.text "") ⟨2, 0⟩)]⟩

/-- What was written, the machine and the cache, after a module was stored for a component. -/
def afterPut (before : List Deed × Machine × Cache) (component : Path) (content : String) :
    List Deed × Machine × Cache :=
  let files : Dependencies := { component }
  let outcome := before.2.1.run (before.2.2.put files content)
  (before.2.2.deeds before.2.1 files content ++ before.1, outcome.2, outcome.1.2)

theorem next {before : List Deed × Machine × Cache} (component : Path) (content : String)
    (run : Run before.1 before.2.1 before.2.2) :
    Run (afterPut before component content).1 (afterPut before component content).2.1
      (afterPut before component content).2.2 := by
  rw [afterPut]
  dsimp only
  exact run.put { component } content

/-- The module of the component in the project is stored. -/
def ownStored : List Deed × Machine × Cache :=
  afterPut ([], neighbours, ⟨⟨"/p"⟩, ⟨⟨"/c"⟩⟩, "3", .empty "3"⟩) ⟨"/p/App.vue"⟩ "A"

/-- Then the module of the other component is stored. -/
def bothStored : List Deed × Machine × Cache := afterPut ownStored ⟨"/p/../App.vue"⟩ "B"

theorem run_ownStored : Run ownStored.1 ownStored.2.1 ownStored.2.2 := by
  refine next ⟨"/p/App.vue"⟩ "A" ?_
  exact .start neighbours rfl

theorem run_bothStored : Run bothStored.1 bothStored.2.1 bothStored.2.2 :=
  next ⟨"/p/../App.vue"⟩ "B" run_ownStored

theorem get?_eq_of_one_module :
    (ownStored.2.1.run (ownStored.2.2.get? ⟨"/p/App.vue"⟩)).1 = some "A" ∧
      Deed.lastStored ownStored.1 (ownStored.2.2.keyOf ⟨"/p/App.vue"⟩) = some "A" := by
  have hget : (ownStored.2.1.run (ownStored.2.2.get? ⟨"/p/App.vue"⟩)).1 = some "A" := by
    decide +kernel
  exact ⟨hget, (run_ownStored.get?_eq hget).2.2 (by decide +kernel)⟩

/-- The key of the component beside the project, `../App.vue`, has the names of the key `App.vue`,
so its module is served for the component in the project. -/
theorem get?_ne_lastStored_of_neighbours :
    Run bothStored.1 bothStored.2.1 bothStored.2.2 ∧
      (bothStored.2.1.run (bothStored.2.2.get? ⟨"/p/App.vue"⟩)).1 = some "B" ∧
        Deed.lastStored bothStored.1 (bothStored.2.2.keyOf ⟨"/p/App.vue"⟩) = some "A" := by
  refine ⟨run_bothStored, ?_, ?_⟩
  · decide +kernel
  · decide +kernel

end Run

end Cache
end ComponentCompiler
