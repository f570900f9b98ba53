import ComponentCompiler.Proofs.Cache.Effects
import ComponentCompiler.Proofs.Decimal.Zero

/-!
# When a module is fresh

A fingerprint names external files in their stored form, and a module is fresh if the fingerprint
that is taken again from it is the same. Joined to the root, the stored form of a path leads where
the path leads, and is stored in the same form, so a module is fresh exactly as long as none of its
files has another modification time than when its fingerprint was taken
(`isFresh_iff_unmodified`).
-/

namespace ComponentCompiler

open Disk ComponentCompiler.Path

/-- The external files that a module depends on. -/
def Dependencies.externals (files : Dependencies) : List Path :=
  files.externalScript.toList ++ files.externalTemplate.toList

/-- A path that its stored form stands for: it is absolute, ends in a name and is not the root. -/
structure Path.Recordable (root path : Path) : Prop where
  absolute : path.isAbsolute
  ends : path.endsInPart
  other : path.components ≠ root.components

namespace Host

variable {σ : Type} [Files (StateM σ)] [Journal (StateM σ)] [FragileHost σ]
variable {s s' before after : σ} {root path : Path} {cache later : Cache} {files : Dependencies}
  {content key : String}

section Times

theorem exists_of_timeOf {x : Binary64} (h : timeOf s path = some x) :
    ∃ time : Timestamp, time.milliseconds? = some x := by
  rw [timeOf_eq] at h
  obtain ⟨found, -, h⟩ := Option.bind_eq_some_iff.mp h
  exact ⟨_, h⟩

/-- Times are the same as numbers exactly if they are equal. -/
theorem sameOption_timeOf (s s' : σ) (path path' : Path) :
    sameOption Binary64.same (timeOf s path) (timeOf s' path') ↔
      timeOf s path = timeOf s' path' := by
  cases hx : timeOf s path with
  | none => cases timeOf s' path' <;> simp [sameOption]
  | some x =>
      cases hy : timeOf s' path' with
      | none => simp [sameOption]
      | some y =>
          obtain ⟨time, htime⟩ := exists_of_timeOf hx
          obtain ⟨time', htime'⟩ := exists_of_timeOf hy
          simpa [sameOption] using Timestamp.same_iff htime htime'

theorem timeOf_of_find_error {e : FileError} (h : (disk s).find (here s) path = .error e) :
    timeOf s path = none := by
  rw [timeOf_eq, h]
  rfl

/-- Joined to the root, the stored form of a path has the times of the path. -/
theorem timeOf_join_stored (hroot : root.isAbsolute) (hpath : root.Recordable path) (s : σ) :
    timeOf s (root.join ⟨root.stored path⟩) = timeOf s path := by
  have hparts : path.parts ≠ root.parts := fun h =>
    hpath.other ((components_eq_iff hpath.absolute hroot).mpr h)
  rw [timeOf_eq, timeOf_eq, find_eq_of_parts (isAbsolute_join hroot _) hpath.absolute
    (parts_join_stored hroot hpath.absolute)
    (endsInPart_join_stored hroot hpath.absolute hparts hpath.ends) hpath.ends]

end Times

section Stamps

omit [Journal (StateM σ)] [FragileHost σ] in
theorem stampOf_of_isAbsolute (hpath : path.isAbsolute) (s : σ) :
    stampOf s root (some path) =
      (timeOf s path).map fun modified => ⟨root.stored path, modified⟩ := by
  rw [stampOf, Option.bind_some, join_of_isAbsolute hpath]

/-- Taken again from what a stamp says, the stamp tells the time of the same file. -/
theorem stampOf_join_stored (hroot : root.isAbsolute) (hpath : root.Recordable path) (s : σ) :
    stampOf s root (some (root.join ⟨root.stored path⟩)) =
      (timeOf s path).map fun modified => ⟨root.stored path, modified⟩ := by
  rw [stampOf_of_isAbsolute (isAbsolute_join hroot _), timeOf_join_stored hroot hpath,
    stored_join_stored hroot hpath.absolute]

/-- The stamp of an external file tells the truth as long as the file has the time of the stamp. -/
theorem same_stampOf_iff (hroot : root.isAbsolute) (s' : σ) {external : Option Path}
    (hexternal : ∀ file ∈ external, root.Recordable file ∧ (timeOf s file).isSome) :
    sameOption ExternalStamp.same
        (stampOf s' root ((stampOf s root external).map fun stamp => root.join ⟨stamp.path⟩))
        (stampOf s root external) ↔
      ∀ file ∈ external, timeOf s' file = timeOf s file := by
  cases external with
  | none => simp [stampOf, sameOption]
  | some file =>
      obtain ⟨hfile, htime⟩ := hexternal file rfl
      obtain ⟨x, hx⟩ := Option.isSome_iff_exists.mp htime
      rw [stampOf_of_isAbsolute hfile.absolute, hx, Option.map_some, Option.map_some,
        stampOf_join_stored hroot hfile]
      have hsame := sameOption_timeOf s' s file file
      rw [hx] at hsame
      cases hy : timeOf s' file with
      | none => simp [sameOption, hy, hx]
      | some y =>
          rw [hy] at hsame
          simpa [sameOption, ExternalStamp.same, hy, hx] using hsame

/-- A stamp that is the same again was taken at the place of the file. -/
theorem timeOf_of_same_stampOf (hpath : path.isAbsolute) (htime : (timeOf before path).isSome)
    (h : sameOption ExternalStamp.same
      (stampOf s' root ((stampOf before root (some path)).map fun stamp => root.join ⟨stamp.path⟩))
      (stampOf before root (some path))) (hroot : root.isAbsolute) :
    timeOf s' (root.join ⟨root.stored path⟩) = timeOf before path := by
  obtain ⟨x, hx⟩ := Option.isSome_iff_exists.mp htime
  have hsame := sameOption_timeOf s' before (root.join ⟨root.stored path⟩) path
  rw [stampOf_of_isAbsolute hpath, hx, Option.map_some, Option.map_some,
    stampOf_of_isAbsolute (isAbsolute_join hroot _)] at h
  rw [hx] at hsame ⊢
  cases hy : timeOf s' (root.join ⟨root.stored path⟩) with
  | none =>
    rw [hy] at h
    cases h
  | some y =>
    rw [hy, Option.map_some, sameOption, ExternalStamp.same, Bool.and_eq_true] at h
    rw [hy] at hsame
    exact hsame.mp h.2

end Stamps

section Runs

/-- Any changes of the host, and modules that are stored under other keys. -/
inductive Spared (key : String) (cache : Cache) (s : σ) : Cache → σ → Prop
  | start : Spared key cache s cache s
  | changed {later : Cache} {s' : σ} (spared : Spared key cache s later s') (after : σ) :
      Spared key cache s later after
  | put {later : Cache} {s' : σ} (spared : Spared key cache s later s') (files : Dependencies)
      (content : String) (other : later.keyOf files.component ≠ key) :
      Spared key cache s (run s' (later.put files content)).1.2 (run s' (later.put files content)).2

theorem get?_put_of_ne (s : σ) {cache : Cache} {files : Dependencies}
    (h : cache.keyOf files.component ≠ key) (content : String) :
    Keyed.get? key (run s (cache.put files content)).1.2.index.entries =
      Keyed.get? key cache.index.entries := by
  rw [cache_of_put]
  split
  · rw [stamped, Keyed.get?_insert, if_neg h.symm]
  · rfl

theorem root_of_put (s : σ) (cache : Cache) (files : Dependencies) (content : String) :
    (run s (cache.put files content)).1.2.root = cache.root := by
  rw [cache_of_put]
  split <;> rfl

/-- Spared entries stay in the index. -/
theorem Spared.entry_eq (h : Spared key cache s later after) :
    later.root = cache.root ∧
      Keyed.get? key later.index.entries = Keyed.get? key cache.index.entries := by
  induction h with
  | start => exact ⟨rfl, rfl⟩
  | changed _ _ ih => exact ih
  | put _ files content other ih =>
      exact ⟨(root_of_put _ _ _ _).trans ih.1, (get?_put_of_ne _ other content).trans ih.2⟩

/-- A module is fresh exactly as long as the times of its files are those of its fingerprint. -/
theorem isFresh_iff_of_entry (hroot : cache.root.isAbsolute) (after : σ)
    (hexternal : ∀ file ∈ files.externals,
      cache.root.Recordable file ∧ (timeOf s file).isSome)
    (hentry : Keyed.get? (cache.keyOf files.component) cache.index.entries =
      some (fingerprintOf s cache.root files)) :
    (run after (cache.isFresh files.component)).1 = true ↔
      timeOf after (cache.root.join files.component) =
          timeOf s (cache.root.join files.component) ∧
        ∀ file ∈ files.externals, timeOf after file = timeOf s file := by
  have hscript := same_stampOf_iff hroot after
    fun file hfile => hexternal file (List.mem_append_left _ (Option.mem_toList.mpr hfile))
  have htemplate := same_stampOf_iff hroot after
    fun file hfile => hexternal file (List.mem_append_right _ (Option.mem_toList.mpr hfile))
  rw [run_isFresh, hentry]
  dsimp only
  rw [Fingerprint.same, Bool.and_eq_true, Bool.and_eq_true, and_assoc]
  refine and_congr (sameOption_timeOf _ _ _ _) ((and_congr hscript htemplate).trans ?_)
  simp only [Dependencies.externals, List.mem_append, Option.mem_toList, Option.mem_def, or_imp,
    forall_and]

/-- A component with an absolute path is fresh only if it has the time of its fingerprint and its
external files have their times where the fingerprint says that they are. -/
theorem times_of_isFresh (hroot : cache.root.isAbsolute) (hfile : files.component.isAbsolute)
    (hexternal : ∀ file ∈ files.externals, file.isAbsolute ∧ (timeOf before file).isSome)
    (hentry : Keyed.get? (cache.keyOf files.component) cache.index.entries =
      some (fingerprintOf before cache.root files))
    (h : (run after (cache.isFresh files.component)).1 = true) :
    timeOf after files.component = timeOf before files.component ∧
      ∀ file ∈ files.externals,
        timeOf after (cache.root.join ⟨cache.root.stored file⟩) = timeOf before file := by
  rw [run_isFresh, hentry] at h
  dsimp only at h
  rw [Fingerprint.same, Bool.and_eq_true, Bool.and_eq_true] at h
  obtain ⟨⟨hmodified, hscript⟩, htemplate⟩ := h
  have hcomponent : timeOf after (cache.root.join files.component) =
      timeOf before (cache.root.join files.component) := (sameOption_timeOf _ _ _ _).mp hmodified
  rw [join_of_isAbsolute hfile] at hcomponent
  refine ⟨hcomponent, fun file hmem => ?_⟩
  obtain ⟨habsolute, htime⟩ := hexternal file hmem
  rcases List.mem_append.mp hmem with hmem | hmem
  · have hchosen : files.externalScript = some file := Option.mem_toList.mp hmem
    refine timeOf_of_same_stampOf habsolute htime ?_ hroot
    rw [← hchosen]
    exact hscript
  · have hchosen : files.externalTemplate = some file := Option.mem_toList.mp hmem
    refine timeOf_of_same_stampOf habsolute htime ?_ hroot
    rw [← hchosen]
    exact htemplate

/-- Freshness is exact: after a module was stored, whatever changes on the host and whatever is
stored under other keys, it is fresh exactly if its component and its external files have the times
that they had when its fingerprint was taken. So it is not fresh once one of the external files is
gone, and it is fresh while nothing has changed. -/
theorem isFresh_iff_unmodified (hroot : cache.root.isAbsolute)
    (hexternal : ∀ file ∈ files.externals, cache.root.Recordable file)
    (hwritten : (textWritten before cache files content).1.isOk)
    (htimes : ∀ file ∈ files.externals,
      (timeOf (textWritten before cache files content).2 file).isSome)
    (hspared : Spared (cache.keyOf files.component) (run before (cache.put files content)).1.2
      (run before (cache.put files content)).2 later after) :
    ((run after (later.isFresh files.component)).1 = true ↔
      timeOf after (cache.root.join files.component) =
          timeOf (textWritten before cache files content).2 (cache.root.join files.component) ∧
        ∀ file ∈ files.externals,
          timeOf after file = timeOf (textWritten before cache files content).2 file) ∧
      (∀ file ∈ files.externals, ∀ e, (disk after).find (here after) file = .error e →
        (run after (later.isFresh files.component)).1 = false) ∧
      (Same (textWritten before cache files content).2 after →
        (run after (later.isFresh files.component)).1 = true) := by
  obtain ⟨hlaterRoot, hget⟩ := hspared.entry_eq
  have hcache := cache_of_put before cache files content
  rw [if_pos hwritten] at hcache
  rw [hcache] at hlaterRoot hget
  have hstamped : later.root = cache.root := hlaterRoot
  have hkey : later.keyOf files.component = cache.keyOf files.component := by
    rw [Cache.keyOf, Cache.keyOf, hstamped]
  rw [stamped, Keyed.get?_insert, if_pos rfl, ← hstamped, ← hkey] at hget
  rw [← hstamped] at hroot hexternal ⊢
  have hiff := isFresh_iff_of_entry hroot after
    (fun file hfile => ⟨hexternal file hfile, htimes file hfile⟩) hget
  refine ⟨hiff, fun file hfile e he => ?_, fun hsame => ?_⟩
  · rw [← Bool.not_eq_true]
    intro hfresh
    have htime := (hiff.mp hfresh).2 file hfile
    have hsome := htimes file hfile
    rw [← htime, timeOf_of_find_error he] at hsome
    cases hsome
  · exact hiff.mpr ⟨hsame.timeOf_eq _, fun file _ => hsame.timeOf_eq file⟩

/-- A component with an external script, both in the root. -/
def scripted : Machine where
  disk := ⟨[(["p"], .directory ⟨1, 0⟩), (["p", "App.vue"], .file (.text "") ⟨10, 0⟩),
    (["p", "lib"], .directory ⟨40, 0⟩), (["p", "lib", "a.js"], .file (.text "") ⟨50, 0⟩)]⟩

/-- A cache that was opened for a root. -/
def opened (root : Path) : Cache := ⟨root, ⟨⟨"/c"⟩⟩, "3", .empty "3"⟩

/-- The files of a component with a script in the root. -/
def scriptedFiles : Dependencies := ⟨⟨"/p/App.vue"⟩, some ⟨"/p/./lib//a.js"⟩, none⟩

/-- The module of the component is stored. -/
def scriptStored : (Except CacheError Unit × Cache) × Machine :=
  run scripted ((opened ⟨"/p"⟩).put scriptedFiles "A")

/-- Then the module of another component is stored. -/
def bothStored : (Except CacheError Unit × Cache) × Machine :=
  run scriptStored.2 (scriptStored.1.2.put ⟨⟨"/p/B.vue"⟩, none, none⟩ "B")

/-- Then the script is removed. -/
def scriptGone : Machine :=
  { bothStored.2 with disk := bothStored.2.disk.drop ["p", "lib", "a.js"] ⟨60, 0⟩ }

theorem spared_bothStored : Spared ((opened ⟨"/p"⟩).keyOf scriptedFiles.component)
    scriptStored.1.2 scriptStored.2 bothStored.1.2 bothStored.2 := by
  have hother : scriptStored.1.2.keyOf ⟨"/p/B.vue"⟩ ≠
      (opened ⟨"/p"⟩).keyOf scriptedFiles.component := by
    decide +kernel
  rw [bothStored]
  exact .put .start ⟨⟨"/p/B.vue"⟩, none, none⟩ "B" hother

/-- After the module of another component is stored a component is still fresh, and once its script
is removed it is not. -/
theorem isFresh_iff_unmodified_of_script :
    (run bothStored.2 (bothStored.1.2.isFresh scriptedFiles.component)).1 = true ∧
      (run scriptGone (bothStored.1.2.isFresh scriptedFiles.component)).1 = false := by
  have hexternal : ∀ file ∈ scriptedFiles.externals,
      (opened ⟨"/p"⟩).root.Recordable file := by
    intro file hfile
    obtain rfl : file = ⟨"/p/./lib//a.js"⟩ := List.mem_singleton.mp hfile
    exact ⟨by decide, by decide, by decide⟩
  have hwritten : (textWritten scripted (opened ⟨"/p"⟩) scriptedFiles "A").1.isOk := by
    decide +kernel
  have htimes : ∀ file ∈ scriptedFiles.externals,
      (timeOf (textWritten scripted (opened ⟨"/p"⟩) scriptedFiles "A").2 file).isSome := by
    decide +kernel
  constructor
  · refine (isFresh_iff_unmodified (by decide) hexternal hwritten htimes spared_bothStored).1.mpr ?_
    decide +kernel
  · refine (isFresh_iff_unmodified (by decide) hexternal hwritten htimes
      (spared_bothStored.changed scriptGone)).2.1 ⟨"/p/./lib//a.js"⟩ (by decide) .notFound ?_
    decide +kernel

/-- A root that is a file is stored with the empty text, which asks for a directory in its place: a
component with such a script is not fresh though nothing has changed. A script that is a directory
loses the slash at its end when it is stored: once a file takes its place there is nothing at its
path any more, and yet the component is fresh. -/
theorem isFresh_ne_unmodified_of_slash :
    let atFile : Dependencies := ⟨⟨"/App.vue"⟩, some ⟨"/p/lib/a.js"⟩, none⟩
    let first := run scripted ((opened ⟨"/p/lib/a.js"⟩).put atFile "A")
    let atDirectory : Dependencies := ⟨⟨"/p/App.vue"⟩, some ⟨"/p/lib/"⟩, none⟩
    let second := run scripted ((opened ⟨"/p"⟩).put atDirectory "A")
    let replaced : Machine := { second.2 with
      disk := (second.2.disk.drop ["p", "lib"] ⟨60, 0⟩).put ["p", "lib"]
        (.file (.text "") ⟨40, 0⟩) }
    ((∀ file ∈ atFile.component :: atFile.externals, timeOf first.2 file =
          timeOf (textWritten scripted (opened ⟨"/p/lib/a.js"⟩) atFile "A").2 file) ∧
        (∀ file ∈ atFile.externals, (timeOf first.2 file).isSome) ∧
        (run first.2 (first.1.2.isFresh atFile.component)).1 = false) ∧
      (run replaced (second.1.2.isFresh atDirectory.component)).1 = true ∧
        timeOf replaced ⟨"/p/lib/"⟩ = none ∧
        (timeOf (textWritten scripted (opened ⟨"/p"⟩) atDirectory "A").2 ⟨"/p/lib/"⟩).isSome := by
  decide +kernel

end Runs

end Host
end ComponentCompiler
