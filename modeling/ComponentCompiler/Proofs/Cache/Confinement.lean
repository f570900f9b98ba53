import ComponentCompiler.Config.Document
import ComponentCompiler.Proofs.Cache.Stored

/-!
# Which files a cache changes

Storing a module changes two files: the one at the names of its key, and the index. Opening and
emptying a cache change files in its directory only. So however a cache is used, a file that does
not lie in its directory is as it was (`caching_spares_files_outside`). Nothing keeps the sources of
a project out of that directory: where it is the root of the project, the module of a component
takes the place of the component (`component_overwritten`).
-/

namespace ComponentCompiler

open Disk

namespace Path

variable {root path : Path} {below : List (List Char)}

theorem strip_append (front rest : List Component) :
    inside?.strip front (front ++ rest) = some rest := by
  induction front with
  | nil => simp [inside?.strip]
  | cons c front ih => simpa [inside?.strip] using ih

/-- What lies in a root is stored by the parts that lead there. -/
theorem stored_of_parts (hroot : root.isAbsolute) (hpath : path.isAbsolute)
    (hparts : path.parts = root.parts ++ below) :
    root.stored path = String.ofList (Text.joined ['/'] below) := by
  have hinside : inside? root path = some (below.map componentOf) := by
    rw [inside?, components_of_isAbsolute hroot, components_of_isAbsolute hpath, hparts,
      List.map_append, ← List.cons_append, strip_append]
  rw [stored, hinside]
  exact slashedComponents_map below

end Path

namespace ModuleStore

/-- The key of names is stored at these names. -/
theorem names_joined {below : List (List Char)}
    (h : ∀ part ∈ below, '/' ∉ part ∧ Path.isSilent part = false)
    (hkept : ∀ part ∈ below, keepsPart part) :
    names (String.ofList (Text.joined ['/'] below)) = below.map String.ofList := by
  rw [names, String.toList_ofList]
  cases below with
  | nil => rfl
  | cons part below =>
    rw [Text.pieces_joined (List.cons_ne_nil _ _) fun part hpart => (h part hpart).1,
      List.filter_eq_self.mpr hkept, List.filter_eq_self.mpr fun part hpart => by
        rw [(h part hpart).2]
        rfl]

end ModuleStore

namespace Host

variable {σ : Type} [Files (StateM σ)] [Journal (StateM σ)] [Host σ]
variable {s before middle after : σ} {touched touched' : Place → Prop} {cache : Cache}
  {files : Dependencies} {root directory component : Path} {version content : String}
  {current : Option Cache} {below : List (List Char)}

section Spared

/-- Every file is as it was, unless it is at one of the given places. -/
structure Spares (touched : Place → Prop) (before after : σ) : Prop where
  files : ∀ p, ¬touched p → (disk after).fileAt p = (disk before).fileAt p
  sound : (disk before).Sound → (disk after).Sound
  here : here after = here before

theorem Spares.trans (h : Spares touched before middle) (h' : Spares touched middle after) :
    Spares touched before after where
  files p hp := (h'.files p hp).trans (h.files p hp)
  sound hsound := h'.sound (h.sound hsound)
  here := h'.here.trans h.here

theorem Spares.mono (h : Spares touched before after) (htouched : ∀ p, touched p → touched' p) :
    Spares touched' before after where
  files p hp := h.files p fun htouch => hp (htouched p htouch)
  sound := h.sound
  here := h.here

theorem Same.spares (h : Same before after) : Spares touched before after where
  files p _ := by rw [h.disk]
  sound hsound := h.disk ▸ hsound
  here := h.here

theorem Kept.spares (h : Kept before after) : Spares touched before after where
  files p _ := (h.disk.nodes p).fileAt_eq
  sound := h.disk.sound
  here := h.here

theorem Thins.spares {place : Place} (h : Thins before after place) :
    Spares (Below place) before after where
  files p hp := (h.disk.nodes p).elim AlikeAt.fileAt_eq fun hgone => absurd hgone.1 hp
  sound := h.disk.sound
  here := h.here

theorem Stores.spares {ε α : Type} {place : Place} {text : String} {result : Except ε α}
    (h : Stores before place text result after) : Spares (· = place) before after where
  files _ hp := h.fileAt_eq hp
  sound := h.sound
  here := h.here

end Spared

section Calls

/-- The files that are written when a module is stored. -/
def written (place : Place) (key : String) (p : Place) : Prop :=
  p = place ++ ModuleStore.names key ∨ p = place ++ CacheIndex.names

/-- Storing a module changes its file and the index. -/
theorem spares_put (s : σ) (cache : Cache) (files : Dependencies) (content : String) :
    Spares (written (spot (here s) cache.directory) (cache.keyOf files.component)) s
      (run s (cache.put files content)).2 := by
  have hstores := stores_textWritten s cache files content
  have hmodule : Spares (written (spot (here s) cache.directory) (cache.keyOf files.component)) s
      (textWritten s cache files content).2 := hstores.spares.mono fun p hp => .inl hp
  cases hresult : (textWritten s cache files content).1 with
  | error e =>
    rw [run_put_of_error hresult]
    dsimp only
    exact hmodule
  | ok path =>
    obtain ⟨told, hsame, hput⟩ := run_put_of_ok hresult
    have hindex := (stores_save told (stamped told cache files).index cache.directory).spares
    rw [hsame.here, hstores.here] at hindex
    rw [hput, run_stamp]
    dsimp only
    exact (hmodule.trans hsame.spares).trans (hindex.mono fun p hp => .inr hp)

/-- A module whose key has names, and whose file is not the index, is there when it was stored. -/
theorem contentAt_put (hnames : ModuleStore.names (cache.keyOf files.component) ≠ CacheIndex.names)
    (hok : (run s (cache.put files content)).1.1.isOk) :
    (disk (run s (cache.put files content)).2).contentAt
        (spot (here s) cache.directory ++ ModuleStore.names (cache.keyOf files.component)) =
      some (.text content) := by
  have hstores := stores_textWritten s cache files content
  cases hresult : (textWritten s cache files content).1 with
  | error e =>
    rw [run_put_of_error hresult] at hok
    cases hok
  | ok path =>
    obtain ⟨told, hsame, hput⟩ := run_put_of_ok hresult
    have hindex := (stores_save told (stamped told cache files).index cache.directory).spares
    rw [hsame.here, hstores.here] at hindex
    rw [hresult] at hstores
    rw [hput, run_stamp, contentAt_eq_map,
      hindex.files _ fun heq => hnames (List.append_cancel_left heq), hsame.disk,
      ← contentAt_eq_map]
    exact hstores.contentAt rfl

theorem directory_put (s : σ) (cache : Cache) (files : Dependencies) (content : String) :
    (run s (cache.put files content)).1.2.directory = cache.directory ∧
      (run s (cache.put files content)).1.2.root = cache.root := by
  rw [cache_of_put]
  split <;> exact ⟨rfl, rfl⟩

omit [Journal (StateM σ)] [Host σ] in
theorem run_clean (s : σ) (cache : Cache) :
    (run s cache.clean).2 = (run s cache.store.clear).2 ∧
      (run s cache.clean).1.2.directory = cache.directory ∧
      (run s cache.clean).1.2.root = cache.root := by
  rw [Cache.clean, run_bind]
  cases (run s cache.store.clear).1 with
  | error e => exact ⟨rfl, rfl, rfl⟩
  | ok removed => exact ⟨rfl, rfl, rfl⟩

/-- Emptying a cache removes what is in its directory. -/
theorem spares_clean (hsound : (disk s).Sound) (cache : Cache) :
    Spares (Below (spot (here s) cache.directory)) s (run s cache.clean).2 := by
  rw [(run_clean s cache).1]
  exact (thins_clear hsound cache.store).1.spares

theorem below_index (place : Place) : Below place (place ++ CacheIndex.names) :=
  below_append (by decide) place

/-- Emptying a directory for a new index changes what is in it. -/
theorem spares_reset (hsound : (disk s).Sound) (directory : Path) (version : String) :
    Spares (Below (spot (here s) directory)) s (run s (Cache.reset directory version)).2 := by
  rcases reset_cases hsound directory version with
    ⟨e, emptied, -, hthins, hkept⟩ | ⟨emptied, -, hthins, -, -, hafter⟩
  · exact hthins.spares.trans hkept.spares
  · rw [hafter]
    have hindex := (stores_save emptied (CacheIndex.empty version) directory).spares
    rw [hthins.here] at hindex
    exact hthins.spares.trans (hindex.mono fun p hp => hp ▸ below_index _)

/-- Opening a cache changes at most what is in its directory. -/
theorem spares_openAt (hsound : (disk s).Sound) (root directory : Path) (version : String) :
    Spares (Below (spot (here s) directory)) s (run s (Cache.openAt root directory version)).2 := by
  rcases run_openAt_cases s root directory version with
    ⟨index, -, -, -, hsame⟩ | ⟨-, ⟨-, -, hsame⟩ | ⟨-, middle, hmiddle, -, hafter⟩⟩
  · exact hsame.spares
  · exact hsame.spares
  · rw [hafter]
    rw [← hmiddle.disk] at hsound
    have hspares := spares_reset hsound directory version
    rw [hmiddle.here] at hspares
    exact hmiddle.spares.trans hspares

/-- In a cache whose directory is the root of the project, the module of a component is stored in
place of the component. -/
theorem component_overwritten (hroot : cache.root.isAbsolute)
    (hcomponent : files.component.isAbsolute)
    (hparts : files.component.parts = cache.root.parts ++ below)
    (hkept : ∀ part ∈ below, ModuleStore.keepsPart part)
    (hnames : below.map String.ofList ≠ CacheIndex.names)
    (hplace : spot (here s) cache.directory = spot (here s) cache.root)
    (hok : (run s (cache.put files content)).1.1.isOk) :
    (disk (run s (cache.put files content)).2).contentAt (spot (here s) files.component) =
      some (.text content) := by
  have hloud := Path.mem_parts_of_append hparts
  have hkey : ModuleStore.names (cache.keyOf files.component) = below.map String.ofList := by
    rw [Cache.keyOf, Path.stored_of_parts hroot hcomponent hparts]
    exact ModuleStore.names_joined hloud hkept
  have hspot : spot (here s) files.component =
      spot (here s) cache.directory ++ below.map String.ofList := by
    rw [hplace, spot_of_isAbsolute hroot, spot_of_isAbsolute hcomponent, hparts,
      List.foldl_append]
    refine foldl_move_names (fun part hpart => ⟨(hloud part hpart).2, ?_⟩) _
    rintro rfl
    exact absurd (hkept _ hpart) (by decide)
  rw [hspot, ← hkey]
  rw [← hkey] at hnames
  exact contentAt_put hnames hok

end Calls

section Histories

/-- What may be done with a cache in a directory, what is open then, and the state that it leads to.
Every call may fail. -/
inductive Uses (root directory : Path) (s : σ) : Option Cache → σ → Prop
  | start : Uses root directory s none s
  | opened {current : Option Cache} {after : σ} (uses : Uses root directory s current after)
      (version : String) :
      Uses root directory s (run after (Cache.openAt root directory version)).1.toOption
        (run after (Cache.openAt root directory version)).2
  | put {cache : Cache} {after : σ} (uses : Uses root directory s (some cache) after)
      (files : Dependencies) (content : String) :
      Uses root directory s (some (run after (cache.put files content)).1.2)
        (run after (cache.put files content)).2
  | get {cache : Cache} {after : σ} (uses : Uses root directory s (some cache) after)
      (file : Path) : Uses root directory s (some cache) (run after (cache.get? file)).2
  | clean {cache : Cache} {after : σ} (uses : Uses root directory s (some cache) after) :
      Uses root directory s (some (run after cache.clean).1.2) (run after cache.clean).2

/-- However a cache is used, it is the one in its directory, and changes only what is there. -/
theorem Uses.spares (h : Uses root directory s current after) (hsound : (disk s).Sound) :
    (∀ cache ∈ current, cache.directory = directory ∧ cache.root = root) ∧
      Spares (spot (here s) directory <+: ·) s after := by
  have hbelow : ∀ p, Below (spot (here s) directory) p → spot (here s) directory <+: p :=
    fun p hp => (below_iff.mp hp).1
  induction h with
  | start => exact ⟨fun cache hcache => (by cases hcache), (Same.refl s).spares⟩
  | @opened _ after _ version ih =>
    obtain ⟨-, hspares⟩ := ih
    have hopen := spares_openAt (hspares.sound hsound) root directory version
    rw [hspares.here] at hopen
    refine ⟨fun cache hcache => ?_, hspares.trans (hopen.mono hbelow)⟩
    cases hresult : (run after (Cache.openAt root directory version)).1 with
    | error e =>
      rw [hresult] at hcache
      cases hcache
    | ok found =>
      rw [hresult] at hcache
      obtain rfl := Option.mem_some_iff.mp hcache
      have hopened := opened_of_openAt hresult
      exact ⟨hopened.directory, hopened.root⟩
  | @put cache after _ files content ih =>
    obtain ⟨hcache, hspares⟩ := ih
    obtain ⟨hdirectory, hroot⟩ := hcache cache rfl
    have hput := spares_put after cache files content
    rw [hspares.here, hdirectory] at hput
    refine ⟨?_, hspares.trans (hput.mono ?_)⟩
    · intro found hfound
      obtain rfl := Option.mem_some_iff.mp hfound
      obtain ⟨hdirectory', hroot'⟩ := directory_put after cache files content
      exact ⟨hdirectory'.trans hdirectory, hroot'.trans hroot⟩
    · rintro p (rfl | rfl) <;> exact List.prefix_append _ _
  | get _ file ih =>
    obtain ⟨hcache, hspares⟩ := ih
    exact ⟨hcache, hspares.trans (same_get? _ _ file).spares⟩
  | @clean cache after _ ih =>
    obtain ⟨hcache, hspares⟩ := ih
    obtain ⟨hdirectory, hroot⟩ := hcache cache rfl
    obtain ⟨-, hdirectory', hroot'⟩ := run_clean after cache
    have hclean := spares_clean (hspares.sound hsound) cache
    rw [hspares.here, hdirectory] at hclean
    refine ⟨?_, hspares.trans (hclean.mono hbelow)⟩
    intro found hfound
    obtain rfl := Option.mem_some_iff.mp hfound
    exact ⟨hdirectory'.trans hdirectory, hroot'.trans hroot⟩

/-- However a project uses its cache, a file that does not lie in the cache directory is as it was,
and storing a module changes two files there. A component that lies in the directory is not safe:
once the directory was emptied nothing is left in it. -/
theorem caching_spares_files_outside (config : Config) (root : Path) (hsound : (disk s).Sound)
    (h : Uses root (config.cacheDirectory root) s current after) :
    let place := spot (here s) (config.cacheDirectory root)
    (∀ p, ¬place <+: p → (disk after).fileAt p = (disk s).fileAt p) ∧
      ∀ cache ∈ current,
        (∀ files content p, ¬written place (root.stored files.component) p →
          (disk (run after (cache.put files content)).2).fileAt p = (disk after).fileAt p) ∧
        ((run after cache.clean).1.1.isOk → ∀ {time : Timestamp},
          (disk after).find (here s) (config.cacheDirectory root) = .ok (place, .directory time) →
            ∀ p, Below place p → (disk (run after cache.clean).2).node? p = none) := by
  obtain ⟨hcurrent, hspares⟩ := h.spares hsound
  refine ⟨hspares.files, fun cache hcache => ?_⟩
  obtain ⟨hdirectory, hroot⟩ := hcurrent cache hcache
  have hstore : cache.store.directory = config.cacheDirectory root := hdirectory
  constructor
  · intro files content
    have hput := spares_put after cache files content
    rw [hspares.here, hdirectory, Cache.keyOf, hroot] at hput
    exact hput.files
  · intro hok time hfind
    obtain ⟨-, hgone⟩ := thins_clear (hspares.sound hsound) cache.store
    rw [hspares.here, hstore] at hgone
    rw [(run_clean after cache).1]
    refine hgone ?_ hfind
    rw [Cache.clean, run_bind] at hok
    cases hresult : (run after cache.store.clear).1 with
    | error e =>
      rw [hresult] at hok
      cases hok
    | ok removed => rfl

/-- A project with one component. -/
def oneComponent : Machine where
  disk := ⟨[(["p"], .directory ⟨1, 0⟩), (["p", "App.vue"], .file (.text "<p/>") ⟨10, 0⟩)]⟩

/-- The cache of the project is opened in a directory. -/
def openedIn (directory : Path) : Except CacheError Cache × Machine :=
  run oneComponent (Cache.openAt ⟨"/p"⟩ directory "3")

/-- A module is stored for the component. -/
def storedIn (directory : Path) : (Except CacheError Unit × Cache) × Machine :=
  run (openedIn directory).2
    (((openedIn directory).1.toOption.getD default).put { component := ⟨"/p/App.vue"⟩ } "module")

theorem sound_oneComponent : (disk oneComponent).Sound := sound_of_entries (by decide)

theorem uses_storedIn (directory : Path) (hok : (openedIn directory).1.isOk) :
    Uses ⟨"/p"⟩ directory oneComponent (some (storedIn directory).1.2) (storedIn directory).2 := by
  have hopened : Uses ⟨"/p"⟩ directory oneComponent (openedIn directory).1.toOption
      (openedIn directory).2 := .opened .start "3"
  rw [storedIn]
  generalize openedIn directory = outcome at hok hopened ⊢
  obtain ⟨result, after⟩ := outcome
  cases result with
  | error e => cases hok
  | ok cache =>
    dsimp only [Except.toOption, Option.getD_some] at hopened ⊢
    exact hopened.put { component := ⟨"/p/App.vue"⟩ } "module"

/-- A configuration that keeps the modules in a directory of their own. -/
def apart : Config := { cachePath := some ⟨".cache"⟩ }

theorem caching_spares_files_outside_of_apart :
    (storedIn (apart.cacheDirectory ⟨"/p"⟩)).1.1.isOk ∧
      (disk (storedIn (apart.cacheDirectory ⟨"/p"⟩)).2).fileAt ["p", "App.vue"] =
        (disk oneComponent).fileAt ["p", "App.vue"] ∧
      (disk (storedIn (apart.cacheDirectory ⟨"/p"⟩)).2).contentAt ["p", ".cache", "App.vue"] =
        some (.text "module") ∧
      (disk (run (storedIn (apart.cacheDirectory ⟨"/p"⟩)).2
        (storedIn (apart.cacheDirectory ⟨"/p"⟩)).1.2.clean).2).node?
          ["p", ".cache", "App.vue"] = none := by
  have huses := uses_storedIn (apart.cacheDirectory ⟨"/p"⟩) (by decide +kernel)
  have hspared := caching_spares_files_outside apart ⟨"/p"⟩ sound_oneComponent huses
  have hfind : (disk (storedIn (apart.cacheDirectory ⟨"/p"⟩)).2).find (here oneComponent)
      (apart.cacheDirectory ⟨"/p"⟩) = .ok (["p", ".cache"], .directory ⟨3, 0⟩) := by decide +kernel
  refine ⟨by decide +kernel, hspared.1 _ (by decide +kernel), by decide +kernel, ?_⟩
  refine (hspared.2 _ rfl).2 (by decide +kernel) hfind _ ⟨"App.vue", [], ?_⟩
  decide +kernel

/-- A configuration that is accepted and puts the modules in the root of the project. The component
is overwritten when its module is stored, and removed when the cache is emptied. -/
theorem component_lost_in_root :
    ∃ config, Config.parse "permanent_cache = true\ncache_dir = \".\"" = .ok config ∧
      let stored := storedIn (config.cacheDirectory ⟨"/p"⟩)
      (disk oneComponent).contentAt ["p", "App.vue"] = some (.text "<p/>") ∧
        stored.1.1.isOk ∧ (disk stored.2).contentAt ["p", "App.vue"] = some (.text "module") ∧
        (run stored.2 stored.1.2.clean).1.1.isOk ∧
        (disk (run stored.2 stored.1.2.clean).2).node? ["p", "App.vue"] = none := by
  have hpath : (Config.parse "permanent_cache = true\ncache_dir = \".\"").toOption.map
      (·.cachePath) = some (some ⟨"."⟩) := by decide +kernel
  cases hparse : Config.parse "permanent_cache = true\ncache_dir = \".\"" with
  | error e =>
    rw [hparse] at hpath
    cases hpath
  | ok config =>
    rw [hparse] at hpath
    have hdot : config.cachePath = some ⟨"."⟩ := Option.some.inj hpath
    have hdirectory : config.cacheDirectory ⟨"/p"⟩ = ⟨"/p/."⟩ := by
      rw [Config.cacheDirectory, hdot]
      decide
    refine ⟨config, rfl, ?_⟩
    dsimp only
    rw [hdirectory]
    decide +kernel

end Histories

end Host
end ComponentCompiler
