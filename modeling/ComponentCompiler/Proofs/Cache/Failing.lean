import ComponentCompiler.Proofs.Cache.Freshness
import ComponentCompiler.Proofs.Cache.Inside
import ComponentCompiler.Proofs.Machine.Written

/-!
# What is left of a failed store

A module is stored in two steps, its text and the index, and neither is taken back when a later one
fails or when it breaks off itself. What such a call leaves on the disk is said place by place
(`Attempted`): new directories on the way to the module, and files that were written, if only in
part. An answer depends on the paths that are looked at for it (`Cache.examined`), and it is as it
was unless such a path leads to a file that was written, to a directory, or nowhere only for want of
directories that were made (`Settled`). If the text could not be written the cache in memory is as
it was too; if the index could not be saved it has the new fingerprint, and the new text is served
by it (`put_of_error`).
-/

namespace ComponentCompiler

open Disk

/-- The paths that are looked at to answer for a file. -/
def Cache.examined (cache : Cache) (file : Path) : List Path :=
  match Keyed.get? (cache.keyOf file) cache.index.entries with
  | none => []
  | some fingerprint =>
    cache.store.path (cache.keyOf file) ::
      (file :: (fingerprint.dependencies cache.root file).externals).map cache.root.join

namespace Host

variable {σ : Type} [Files (StateM σ)] [Journal (StateM σ)] [FragileHost σ]
variable {s before middle after : σ} {target path : Path} {written : Place → Prop} {cache : Cache}
  {files : Dependencies} {content : String}

section Attempts

/-- An attempt to write a module: each place is as it was, or a directory was made there on the way
to the module, or a file was written there. -/
structure Attempted (target : Path) (written : Place → Prop) (before after : σ) : Prop where
  nodes : ∀ p, AlikeAt (disk before) (disk after) p ∨
    (Passes (here before) target p ∧ (disk before).node? p = none ∧ (disk after).IsDirectory p) ∨
    (written p ∧ ¬(disk before).IsDirectory p ∧ ((disk after).fileAt p).isSome)
  here : here after = here before

/-- Where a path leads does not depend on whether directories are made on the way to a module. -/
inductive Settled (s : σ) (target path : Path) : Prop
  | file {place : Place} {held : Content} {time : Timestamp}
      (h : (disk s).find (here s) path = .ok (place, .file held time))
  | absent (hnone : (disk s).node? (spot (here s) path) = none)
      (hpasses : ¬Passes (here s) target (spot (here s) path))
  | stuck {q : Place} (hway : q ∈ way (here s) path) (hnot : ¬(disk s).IsDirectory q)
      (hpasses : (disk s).node? q = none → ¬Passes (here s) target q)
  | malformed (h : (start (here s) path).isOk = false)

theorem Attempted.isDirectory (h : Attempted target written before after) {p : Place}
    (hp : (disk before).IsDirectory p) : (disk after).IsDirectory p := by
  rcases h.nodes p with halike | ⟨-, hnone, -⟩ | ⟨-, hnot, -⟩
  · exact halike.isDirectory_iff.mpr hp
  · obtain ⟨time, hp⟩ := hp
    rw [hnone] at hp
    cases hp
  · exact absurd hp hnot

theorem Attempted.not_isDirectory (h : Attempted target written before after) {p : Place}
    (hp : ¬(disk before).IsDirectory p)
    (hpasses : (disk before).node? p = none → ¬Passes (Host.here before) target p) :
    ¬(disk after).IsDirectory p := by
  rcases h.nodes p with halike | ⟨hpass, hnone, -⟩ | ⟨-, -, hfile⟩
  · exact fun hafter => hp (halike.isDirectory_iff.mp hafter)
  · exact absurd hpass (hpasses hnone)
  · intro hafter
    rw [hafter.fileAt_eq_none] at hfile
    cases hfile

/-- What is no directory is as it was, unless a directory was made or a file written there. -/
theorem Attempted.node?_eq (h : Attempted target written before after) {p : Place}
    (hp : ¬(disk before).IsDirectory p) (hwritten : ¬written p)
    (hpasses : (disk before).node? p = none → ¬Passes (Host.here before) target p) :
    (disk after).node? p = (disk before).node? p := by
  rcases h.nodes p with (halike | ⟨hbefore, -⟩) | ⟨hpass, hnone, -⟩ | ⟨hwrite, -⟩
  · exact halike
  · exact absurd hbefore hp
  · exact absurd hpass (hpasses hnone)
  · exact absurd hwrite hwritten

/-- A path that is settled leads where it led, unless it leads to what was written. -/
theorem Attempted.find_eq (h : Attempted target written before after)
    (hpath : Settled before target path) (hspot : ¬written (spot (Host.here before) path)) :
    ((disk after).find (Host.here after) path).toOption =
      ((disk before).find (Host.here before) path).toOption := by
  refine toOption_congr fun ⟨place, node⟩ => ?_
  rw [find_eq_ok_iff, find_eq_ok_iff, h.here]
  cases hpath with
  | file hfind =>
    obtain ⟨hstart, hway, rfl, hnode⟩ := find_eq_ok_iff.mp hfind
    have hway' : ∀ q ∈ way (Host.here before) path, (disk after).IsDirectory q :=
      fun q hq => h.isDirectory (hway q hq)
    have hsame : (disk after).node? (spot (Host.here before) path) =
        (disk before).node? (spot (Host.here before) path) := by
      refine h.node?_eq ?_ hspot ?_
      · rintro ⟨time, hdirectory⟩
        rw [hnode] at hdirectory
        cases hdirectory
      · intro hnone
        rw [hnode] at hnone
        cases hnone
    constructor
    · rintro ⟨-, -, rfl, hfound⟩
      exact ⟨hstart, hway, rfl, hsame ▸ hfound⟩
    · rintro ⟨-, -, rfl, hfound⟩
      exact ⟨hstart, hway', rfl, hsame ▸ hfound⟩
  | absent hnone hpasses =>
    have hgone : (disk after).node? (spot (Host.here before) path) = none := by
      rw [h.node?_eq ?_ hspot fun _ => hpasses, hnone]
      rintro ⟨time, hdirectory⟩
      rw [hnone] at hdirectory
      cases hdirectory
    constructor
    · rintro ⟨-, -, rfl, hfound⟩
      rw [hgone] at hfound
      cases hfound
    · rintro ⟨-, -, rfl, hfound⟩
      rw [hnone] at hfound
      cases hfound
  | stuck hway hnot hpasses =>
    exact iff_of_false (fun hfound => h.not_isDirectory hnot hpasses (hfound.2.1 _ hway))
      fun hfound => hnot (hfound.2.1 _ hway)
  | malformed hstart => simp [hstart]

theorem Attempted.mono {written' : Place → Prop} (h : Attempted target written before after)
    (hwritten : ∀ p, written p → written' p) : Attempted target written' before after := by
  refine ⟨fun p => ?_, h.here⟩
  rcases h.nodes p with halike | hmade | ⟨hwrite, hrest⟩
  · exact .inl halike
  · exact .inr (.inl hmade)
  · exact .inr (.inr ⟨hwritten p hwrite, hrest⟩)

/-- An attempt after another one, where all directories that it makes are on the way of the
first. -/
theorem Attempted.trans {directory : Path} {written' : Place → Prop}
    (h : Attempted target written before middle) (h' : Attempted directory written' middle after)
    (hway : ∀ p, Passes (Host.here middle) directory p → Passes (Host.here before) target p) :
    Attempted target (fun p => written p ∨ written' p) before after := by
  refine ⟨fun p => ?_, h'.here.trans h.here⟩
  rcases h.nodes p with halike | ⟨hpass, hnone, hdirectory⟩ | ⟨hwrite, hnot, hfile⟩
  · rcases h'.nodes p with halike' | ⟨hpass', hnone', hdirectory'⟩ | ⟨hwrite', hnot', hfile'⟩
    · exact .inl (halike.trans halike')
    · refine .inr (.inl ⟨hway p hpass', ?_, hdirectory'⟩)
      have hsome := halike.isSome_iff
      rw [hnone'] at hsome
      simpa using hsome
    · exact .inr (.inr ⟨.inr hwrite', fun hp => hnot' (halike.isDirectory_iff.mpr hp), hfile'⟩)
  · exact .inr (.inl ⟨hpass, hnone, h'.isDirectory hdirectory⟩)
  · refine .inr (.inr ⟨.inl hwrite, hnot, ?_⟩)
    rcases h'.nodes p with halike' | ⟨-, hnone', -⟩ | ⟨-, -, hfile'⟩
    · rwa [halike'.fileAt_eq]
    · rw [fileAt, hnone'] at hfile
      cases hfile
    · exact hfile'

theorem Attempted.same (h : Attempted target written before middle) (h' : Same middle after) :
    Attempted target written before after :=
  ⟨h'.disk ▸ h.nodes, h'.here.trans h.here⟩

theorem Kept.attempted (h : Kept before after)
    (haway : ∀ p, ¬Passes (Host.here before) target p →
      AlikeAt (Host.disk before) (Host.disk after) p) :
    Attempted target (fun _ => False) before after := by
  refine ⟨fun p => ?_, h.here⟩
  by_cases hpass : Passes (Host.here before) target p
  · exact (h.disk.nodes p).imp id fun hnew => .inl ⟨hpass, hnew⟩
  · exact .inl (haway p hpass)

theorem attempted_of_rewritten {place : Place} {held : Content}
    (h : Rewritten (disk before) (disk after) place held)
    (haway : ∀ p, ¬Passes (Host.here before) target p → p ≠ place →
      AlikeAt (disk before) (disk after) p)
    (hhere : Host.here after = Host.here before) : Attempted target (· = place) before after := by
  refine ⟨fun p => ?_, hhere⟩
  by_cases hp : p = place
  · obtain ⟨time, hnode⟩ := h.node
    refine .inr (.inr ⟨hp, hp ▸ h.room, ?_⟩)
    rw [hp, fileAt, hnode]
    rfl
  by_cases hpass : Passes (Host.here before) target p
  · exact (h.others p hp).imp id fun hnew => .inl ⟨hpass, hnew⟩
  · exact .inl (haway p hpass hp)

/-- A file that is found is still found when directories were made. -/
theorem Kept.found {place : Place} {held : Content} {time : Timestamp} (h : Kept before after)
    (hfind : (Host.disk before).find (Host.here before) path = .ok (place, .file held time)) :
    (Host.disk after).find (Host.here after) path = .ok (place, .file held time) := by
  have hfile := (h.disk.nodes place).fileAt_eq
  rw [fileAt_of_find hfind] at hfile
  rw [h.here]
  exact find_of_way hfind (fun q _ => (h.disk.nodes q).isDirectory) (node?_of_fileAt hfile)

/-- A file that is found is still found when writing a file broke off. -/
theorem Cut.found {place document : Place} {text : String} {part : List UInt8} {held : Content}
    {time : Timestamp} (h : Cut before after document text part)
    (hhere : Host.here after = Host.here before)
    (hfind : (Host.disk before).find (Host.here before) path = .ok (place, .file held time)) :
    ∃ time, (Host.disk after).find (Host.here after) path =
      .ok (place, .file (if place = document then .ofBytes part else held) time) := by
  rw [hhere]
  have hway : ∀ q ∈ way (Host.here before) path, (Host.disk before).IsDirectory q →
      (Host.disk after).IsDirectory q := fun q _ => h.disk.isDirectory
  split
  · rename_i hplace
    obtain ⟨time, hnode⟩ := h.disk.node
    exact ⟨time, find_of_way hfind hway (hplace ▸ hnode)⟩
  · rename_i hplace
    have hfile := (h.disk.others place hplace).fileAt_eq
    rw [fileAt_of_find hfind] at hfile
    exact ⟨time, find_of_way hfind hway (node?_of_fileAt hfile)⟩

end Attempts

section Steps

/-- When an index cannot be saved, at most directories on the way to it are new, or writing it broke
off. -/
theorem attempted_save {index : CacheIndex} {directory : Path}
    (h : (run s (index.save directory)).1.isOk = false) :
    let document := spot (here s) directory ++ CacheIndex.names
    let after := (run s (index.save directory)).2
    (Kept s after ∧ Attempted directory (fun _ => False) s after) ∨
      ∃ part, Cut s after document index.document part ∧
        Attempted directory (· = document) s after := by
  have hkept := kept_makeDirectories s directory
  have haway : ∀ p, ¬Passes (here s) directory p →
      AlikeAt (disk s) (disk (run s (Files.makeDirectories directory)).2) p :=
    fun p hp => alikeAt_makeDirectories s directory fun above habove heq =>
      hp (heq ▸ passes_of_mem_ancestors (here s) habove)
  dsimp only
  rw [← CacheIndex.spot_fileName, ← hkept.here]
  rcases save_cases s index directory with ⟨-, hafter⟩ | ⟨hresult, hafter⟩
  · rw [hafter]
    exact .inl ⟨hkept, hkept.attempted haway⟩
  · rw [hafter]
    rw [hresult] at h
    generalize (run s (Files.makeDirectories directory)).2 = made at h hkept haway ⊢
    have hhere := here_run_writeText made (directory.join CacheIndex.fileName) index.document
    rcases writeText_cases made (directory.join CacheIndex.fileName) index.document with
      ⟨hok, -⟩ | ⟨-, hsame | ⟨hbreaks, part, now, hpart, hwrite⟩⟩
    · rw [h] at hok
      cases hok
    · have hkept' := hkept.trans (Same.kept ⟨hsame, hhere⟩)
      exact .inl ⟨hkept', hkept'.attempted fun p hp => hsame ▸ haway p hp⟩
    · have hcut := hkept.cut ⟨hbreaks, hpart, rewritten_writeFile hwrite⟩
      exact .inr ⟨part, hcut, attempted_of_rewritten hcut.disk
        (fun p hp hne => (haway p hp).trans (alikeAt_writeFile hwrite hne))
        (hhere.trans hkept.here)⟩

/-- The file of a module was written with a content, and is found by the path of the module. -/
structure Landed (s : σ) (target : Path) (held : Content) (after : σ) : Prop where
  attempted : Attempted target (· = spot (Host.here s) target) s after
  found : ∃ time, (disk after).find (Host.here after) target =
    .ok (spot (Host.here s) target, .file held time)

/-- A module is written, or at most directories on the way to it are new, or writing it broke
off. -/
theorem attempted_textWritten (s : σ) (cache : Cache) (files : Dependencies) (content : String) :
    let target := cache.store.path (cache.keyOf files.component)
    let written := textWritten s cache files content
    (written.1.isOk ∧ Landed s target (.text content) written.2) ∨
      written.1.isOk = false ∧ (Attempted target (fun _ => False) s written.2 ∨
        ∃ part, Cut s written.2 (spot (here s) target) content part ∧
          Landed s target (.ofBytes part) written.2) := by
  have haway := fun p (hp : ¬Passes (here s) (cache.store.path (cache.keyOf files.component)) p) =>
    alikeAt_write_of_not_passes s cache.store (cache.keyOf files.component) content hp
  have hkept := kept_makeParent s (cache.store.path (cache.keyOf files.component))
  dsimp only
  rw [textWritten]
  generalize cache.keyOf files.component = key at haway hkept ⊢
  rcases write_cases s cache.store key content with ⟨herror, hafter⟩ | ⟨hresult, hafter⟩
  · rw [hafter] at haway ⊢
    exact .inr ⟨herror, .inl (hkept.attempted haway)⟩
  · rw [hafter] at haway ⊢
    rw [hresult]
    generalize (run s (ModuleStore.makeParent (cache.store.path key))).2 = made at hkept haway ⊢
    have hhere := here_run_writeText made (cache.store.path key) content
    have hlanded {held : Content} {now : Timestamp}
        (hwrite : (disk made).writeFile (here made) (cache.store.path key) held now =
          .ok (disk (run made (Files.writeText (cache.store.path key) content)).2)) :
        Landed s (cache.store.path key) held
          (run made (Files.writeText (cache.store.path key) content)).2 := by
      have hfound := find_of_writeFile hwrite
      have hwritten := hkept.disk.rewritten (rewritten_writeFile hwrite)
      rw [hkept.here] at hfound hwritten
      refine ⟨attempted_of_rewritten hwritten (fun p hp _ => haway p hp)
        (hhere.trans hkept.here), now, ?_⟩
      rwa [hhere, hkept.here]
    rcases writeText_cases made (cache.store.path key) content with
      ⟨hok, now, hwrite⟩ | ⟨herror, hsame | ⟨hbreaks, part, now, hpart, hwrite⟩⟩
    · exact .inl ⟨hok, hlanded hwrite⟩
    · have hkept' := hkept.trans (Same.kept ⟨hsame, hhere⟩)
      exact .inr ⟨herror, .inl (hkept'.attempted haway)⟩
    · refine .inr ⟨herror, .inr ⟨part, ?_, hlanded hwrite⟩⟩
      rw [← hkept.here]
      exact hkept.cut ⟨hbreaks, hpart, rewritten_writeFile hwrite⟩

omit [FragileHost σ] in
/-- A call that could not write a module does nothing after that. -/
theorem snd_put_of_not_written (h : (textWritten s cache files content).1.isOk = false) :
    (run s (cache.put files content)).2 = (textWritten s cache files content).2 := by
  cases hresult : (textWritten s cache files content).1 with
  | error e => rw [run_put_of_error hresult]
  | ok path =>
    rw [hresult] at h
    cases h

/-- When a module was written and its index cannot be saved, at most directories are new after that,
or writing the index broke off. -/
theorem attempted_put {e : CacheError} (hwritten : (textWritten s cache files content).1.isOk)
    (h : (run s (cache.put files content)).1.1 = .error e) :
    let target := cache.store.path (cache.keyOf files.component)
    let document := spot (here s) cache.directory ++ CacheIndex.names
    let middle := (textWritten s cache files content).2
    let after := (run s (cache.put files content)).2
    Landed s target (.text content) middle →
      Landed s target (.text content) after ∨
      ∃ part, Cut middle after document (stamped middle cache files).index.document part ∧
        Attempted target (fun p => p = spot (here s) target ∨ p = document) s after ∧
        ∃ time, (disk after).find (here after) target = .ok (spot (here s) target,
          .file (if spot (here s) target = document then .ofBytes part else .text content)
            time) := by
  dsimp only
  intro hlanded
  obtain ⟨path, hresult⟩ := exists_ok_of_isOk hwritten
  obtain ⟨told, hsame, hput⟩ := run_put_of_ok hresult
  have hstamped : stamped told cache files =
      stamped (textWritten s cache files content).2 cache files := by
    rw [stamped, stamped, hsame.fingerprintOf_eq]
  rw [hput, run_stamp] at h ⊢
  rw [← hstamped]
  dsimp only at h ⊢
  have hhere : here told = here s := hsame.here.trans hlanded.attempted.here
  have hway : ∀ p, Passes (here told) cache.directory p →
      Passes (here s) (cache.store.path (cache.keyOf files.component)) p := by
    rw [hhere]
    exact fun p => ModuleStore.passes_of_directory
  have hbefore := hlanded.attempted.same hsame
  obtain ⟨time, hfound⟩ := hlanded.found
  replace hfound := hsame.kept.found hfound
  have hfailed :
      (run told ((stamped told cache files).index.save cache.directory)).1.isOk = false := by
    rw [h]
    rfl
  rcases attempted_save hfailed with ⟨hkept, hsave⟩ | ⟨part, hcut, hsave⟩
  · exact .inl ⟨(hbefore.trans hsave hway).mono (by simp), time, hkept.found hfound⟩
  · rw [hhere] at hcut hsave
    refine .inr ⟨part, hsame.kept.cut hcut, hbefore.trans hsave hway, ?_⟩
    exact hcut.found hsave.here hfound

end Steps

section Answers

theorem toOption_readText (disk : Disk) (here : Place) (path : Path) :
    (disk.readText here path).toOption = (disk.find here path).toOption.bind fun found =>
      (found.2.file?).bind fun held => held.1.text? := by
  rw [Disk.readText, Disk.content]
  cases disk.find here path with
  | error e => rfl
  | ok found =>
    obtain ⟨place, node⟩ := found
    cases node with
    | directory time => rfl
    | file held time => cases held <;> rfl

theorem timeOf_congr (h : ((disk after).find (Host.here after) path).toOption =
    ((disk before).find (Host.here before) path).toOption) :
    timeOf after path = timeOf before path := by
  rw [timeOf_eq, timeOf_eq, h]

theorem fingerprintOf_congr {root : Path}
    (h : ∀ path ∈ (files.component :: files.externals).map root.join,
      ((disk after).find (Host.here after) path).toOption =
        ((disk before).find (Host.here before) path).toOption) :
    fingerprintOf after root files = fingerprintOf before root files := by
  simp only [List.forall_mem_map, List.forall_mem_cons, Dependencies.externals,
    List.forall_mem_append] at h
  obtain ⟨hcomponent, hscript, htemplate⟩ := h
  have hstamp : ∀ external : Option Path,
      (∀ path ∈ external.toList, ((disk after).find (Host.here after) (root.join path)).toOption =
        ((disk before).find (Host.here before) (root.join path)).toOption) →
      stampOf after root external = stampOf before root external := by
    intro external hexternal
    cases external with
    | none => rfl
    | some path =>
      rw [stampOf, stampOf, Option.bind_some, Option.bind_some,
        timeOf_congr (hexternal path List.mem_cons_self)]
  rw [fingerprintOf, fingerprintOf, timeOf_congr hcomponent, hstamp _ hscript, hstamp _ htemplate]

/-- An answer depends on the entry of the file and on where the examined paths lead. -/
theorem get?_congr {later : Cache} {file : Path} (hroot : later.root = cache.root)
    (hstore : later.store = cache.store)
    (hentry : Keyed.get? (cache.keyOf file) later.index.entries =
      Keyed.get? (cache.keyOf file) cache.index.entries)
    (hfind : ∀ path ∈ cache.examined file, ((disk after).find (Host.here after) path).toOption =
      ((disk before).find (Host.here before) path).toOption) :
    (run after (later.get? file)).1 = (run before (cache.get? file)).1 := by
  have hkey : later.keyOf file = cache.keyOf file := by rw [Cache.keyOf, Cache.keyOf, hroot]
  have hlater := run_isFresh after later file
  have hcache := run_isFresh before cache file
  rw [hkey, hentry, hroot] at hlater
  rw [run_get?, run_get?, hlater, hcache]
  cases hfound : Keyed.get? (cache.keyOf file) cache.index.entries with
  | none => simp only [Bool.false_eq_true, if_false]
  | some fingerprint =>
    rw [Cache.examined, hfound] at hfind
    obtain ⟨hmodule, hfiles⟩ := List.forall_mem_cons.mp hfind
    have hsame : fingerprintOf after cache.root (fingerprint.dependencies cache.root file) =
        fingerprintOf before cache.root (fingerprint.dependencies cache.root file) :=
      fingerprintOf_congr hfiles
    simp only [hsame, hkey, hstore, toOption_readText, hmodule]

/-- A file is served what it was served before. -/
def ServedAlike (s : σ) (cache : Cache) (after : σ) (later : Cache) (file : Path) : Prop :=
  (run after (later.get? file)).1 = (run s (cache.get? file)).1

/-- A file is served some content as long as it is fresh, if that is a text. -/
def Serves (s : σ) (cache : Cache) (file : Path) (held : Content) : Prop :=
  (run s (cache.get? file)).1 = if (run s (cache.isFresh file)).1 then held.text? else none

/-- The paths that are looked at for a file are settled and lead to nothing that was written. -/
def Undisturbed (s : σ) (cache : Cache) (target : Path) (written : Place → Prop) (file : Path) :
    Prop :=
  ∀ path ∈ cache.examined file, Settled s target path ∧ ¬written (spot (here s) path)

theorem Attempted.servedAlike {later : Cache} {file : Path}
    (h : Attempted target written before after) (hroot : later.root = cache.root)
    (hstore : later.store = cache.store)
    (hentry : Keyed.get? (cache.keyOf file) later.index.entries =
      Keyed.get? (cache.keyOf file) cache.index.entries)
    (hfile : Undisturbed before cache target written file) :
    ServedAlike before cache after later file :=
  get?_congr hroot hstore hentry fun path hpath =>
    h.find_eq (hfile path hpath).1 (hfile path hpath).2

theorem serves_of_find {file : Path} {key : String} {place : Place} {held : Content}
    {time : Timestamp} (hkey : cache.keyOf file = key)
    (h : (disk s).find (here s) (cache.store.path key) = .ok (place, .file held time)) :
    Serves s cache file held := by
  rw [Serves, run_get?, toOption_readText, hkey, h]
  rfl

omit [Journal (StateM σ)] [FragileHost σ] in
theorem get?_stamped {file : Path} (h : cache.keyOf file ≠ cache.keyOf files.component) :
    Keyed.get? (cache.keyOf file) (stamped s cache files).index.entries =
      Keyed.get? (cache.keyOf file) cache.index.entries := by
  rw [stamped, Keyed.get?_insert, if_neg h]

end Answers

section Runs

/-- A project with two components, and a directory for the cache. -/
def projectWith (nodes : List (Place × Node)) : Machine where
  disk := ⟨[(["p"], .directory ⟨1, 0⟩), (["p", "App.vue"], .file (.text "x") ⟨10, 0⟩),
    (["p", "Other.vue"], .file (.text "y") ⟨11, 0⟩), (["c"], .directory ⟨1, 0⟩)] ++ nodes⟩
  clock := 100

omit [FragileHost σ] in
/-- A cache that has the fingerprint of one file. -/
def knowing (s : σ) (file : Path) : Cache :=
  stamped s ⟨⟨"/p"⟩, ⟨⟨"/c"⟩⟩, "3", .empty "3"⟩ { component := file }

/-- What is left when a module was stored for a component by a cache that knows a file. -/
def storedBeside (s : σ) (file component : Path) (content : String) :
    (Except CacheError Unit × Cache) × σ :=
  run s ((knowing s file).put { component } content)

/-- The module of one component is there, and a directory stands in the place of the index. -/
def noIndex : Machine := projectWith
  [(["c", "Other.vue"], .file (.text "O") ⟨12, 0⟩), (["c", "revue.json"], .directory ⟨13, 0⟩)]

/-- A machine with a limit to the bytes of a file. -/
structure LimitedMachine where
  machine : Machine
  limit : Nat

namespace LimitedMachine

/-- What a program does on the machine itself. -/
def lift {α : Type} (program : StateM Machine α) : StateM LimitedMachine α := fun s =>
  ((program s.machine).1, { s with machine := (program s.machine).2 })

/-- Writing a text that is too long breaks off at the limit. -/
def writeText (path : Path) (text : String) : StateM LimitedMachine (Except FileError Unit) :=
  fun s =>
    if text.utf8ByteSize ≤ s.limit then lift (Files.writeText path text) s
    else
      let first := Content.ofBytes (text.toUTF8.toList.take s.limit)
      match s.machine.disk.writeFile s.machine.here path first s.machine.now with
      | .ok disk => (.error (.other "File too large (os error 27)"),
          { s with machine := s.machine.withDisk disk })
      | .error e => (.error e, s)

instance : Files (StateM LimitedMachine) where
  readText path := lift (Files.readText path)
  writeText := writeText
  makeDirectories path := lift (Files.makeDirectories path)
  entries path := lift (Files.entries path)
  remove path := lift (Files.remove path)
  isFile path := lift (Files.isFile path)
  pathExists path := lift (Files.pathExists path)
  modified path := lift (Files.modified path)

instance : Journal (StateM LimitedMachine) where
  record event := lift (Journal.record event)
  showLevel level := lift (Journal.showLevel level)

theorem here_writeText (s : LimitedMachine) (path : Path) (text : String) :
    (writeText path text s).2.machine.here = s.machine.here := by
  unfold writeText
  split
  · exact Host.here_writeText s.machine path text
  · dsimp only
    split <;> rfl

theorem writeText_tried (s : LimitedMachine) (path : Path) (text : String) :
    Tried s.machine.disk (fun now => s.machine.disk.changed
        (s.machine.disk.writeFile s.machine.here path (.text text) now))
      (fun after => True ∧ s.machine.disk.BegunFile s.machine.here path text after)
      (writeText path text s).1 (writeText path text s).2.machine.disk := by
  unfold writeText
  split
  · exact s.machine.tried_change
  · dsimp only
    split
    · rename_i hwrite
      exact .brokeOff _ ⟨trivial, _, _, List.take_prefix _ _, hwrite⟩
    · exact .failed _

instance : FragileHost LimitedMachine where
  disk s := s.machine.disk
  here s := s.machine.here
  breaksOff := True
  readText_eq _ _ := rfl
  entries_eq _ _ := rfl
  pathExists_eq _ _ := rfl
  modified_eq _ _ := rfl
  here_writeText := here_writeText
  writeText_tried := writeText_tried
  here_makeDirectories _ _ := rfl
  makeDirectories_tried s _ := .happened s.machine.now
  record_keeps s event := Host.record_keeps s.machine event

end LimitedMachine

/-- Storing a module fails, and a file that the cache knows is served something else after it. -/
def FailsAndChanges (s : σ) (file component : Path) (content : String)
    (before after : Option String) : Prop :=
  let stored := storedBeside s file component content
  stored.1.1.isOk = false ∧ (run s ((knowing s file).get? file)).1 = before ∧
    (run stored.2 (stored.1.2.get? file)).1 = after

instance (s : σ) (file component : Path) (content : String) (before after : Option String) :
    Decidable (FailsAndChanges s file component content before after) :=
  inferInstanceAs (Decidable (_ ∧ _ ∧ _))

end Runs

end Host
end ComponentCompiler
