import ComponentCompiler.Proofs.Build.Complaints
import ComponentCompiler.Proofs.Build.Sources
import ComponentCompiler.Proofs.Loader.Idempotence

/-!
# Loaders with different options and one cache

What a cache serves depends on the times of files and on the version of the compiler, not on the
options of a loader. So of two loaders with one directory the second is served the module that the
first stored, whatever form of module it would build itself and whichever transpiler it has, for as
long as the times are those of the fingerprint. Otherwise it gives back what it would give without a
cache (`load_across_options`).
-/

namespace ComponentCompiler

open Host

section Builders

variable {σ : Type} [Files (StateM σ)] [Journal (StateM σ)] [Host σ]
variable {builder : Builder (StateM σ)}

theorem Host.Reads.unnoticed {x : StateM σ Unit} (h : Reads x) : Unnoticed Same x := by
  intro s t hst
  refine ⟨⟨?_, ?_⟩, hst.trans (h t)⟩
  · rw [(h s).disk, hst.disk]
  · rw [(h s).here, hst.here]

theorem Host.blind_same : Blind (Same (σ := σ)) where
  readText path s t hst := by
    rw [run_readText, run_readText, hst.disk, hst.here]
    exact ⟨rfl, hst⟩
  record event := (reads_record event).unnoticed

/-- A program that answers the same on every state and leaves the disk as it is goes the same way on
states with the same disk. -/
theorem Host.matches_of_constant {α : Type} {x : StateM σ α} (hreads : Reads x)
    (hconstant : Constant x) : Matches Same Eq x x := by
  intro s t hst
  refine ⟨hconstant s t, ?_, ?_⟩
  · rw [(hreads s).disk, (hreads t).disk, hst.disk]
  · rw [(hreads s).here, (hreads t).here, hst.here]

namespace Builder

/-- A builder whose collaborators are functions does the same work wherever the disk is the same. -/
theorem Functional.sameWork (h : builder.Functional) : SameWork Same builder builder where
  version := rfl
  variant := rfl
  format := rfl
  transpilerOptions := rfl
  parse source name :=
    (matches_of_constant (h.parse source name) (h.parse_constant source name)).both fun _ => rfl
  compileScript descriptor name :=
    (matches_of_constant (h.compileScript descriptor name)
      (h.compileScript_constant descriptor name)).both fun _ => rfl
  compileTemplate task :=
    (matches_of_constant (h.compileTemplate task) (h.compileTemplate_constant task)).both
      fun _ => ⟨rfl, rfl⟩
  transpiler := rfl
  transpile transpiler htranspiler transpiler' htranspiler' task := by
    obtain rfl : transpiler = transpiler' := Option.mem_unique htranspiler htranspiler'
    exact (matches_of_constant (h.transpile transpiler htranspiler task)
      (h.transpile_constant transpiler htranspiler task)).both fun _ => rfl
  deliver record := ⟨(h.deliver record).unnoticed, (h.deliver record).unnoticed⟩

theorem Functional.same_build (h : builder.Functional) {s t : σ} (hsame : Same s t)
    (source : String) (file : Path) : (run s (builder.build source file).run).1 =
      (run t (builder.build source file).run).1 :=
  ((h.sameWork.sideBySide blind_same).matches_build source file s t hsame).1.eq

end Builder

end Builders

/-- A loader that is the same but for its cache, which it does without. -/
def Loader.uncached {m : Type → Type} (l : Loader m) : Loader m := { l with caching := none }

namespace Host

open Disk LoaderHost

variable {σ : Type} [Files (StateM σ)] [Journal (StateM σ)] [MonadStateOf LoaderState (StateM σ)]
variable [Host σ] [LoaderHost σ]
variable {s t before after : σ} {l : Loader (StateM σ)} {cache : Cache} {caching : Caching}
  {version source text : String} {file : Path} {fingerprint : Fingerprint} {built : BuiltModule}

section Uncached

/-- Without a cache, what is loaded is what is built. -/
theorem run_load_uncached (hidle : (loader s).busy = false) (l : Loader (StateM σ))
    (source : String) (file : Path) : (run s (l.uncached.load source file)).1 =
      (run (run s (Loader.setBusy true)).2 (l.builder.build source file).run).1.map
        BuiltModule.code := by
  rw [run_load_of_idle hidle]
  rfl

end Uncached

section Trust

/-- A loader goes by a fingerprint that is fresh and serves a text for a file: the fingerprint is
that of its cache or, if that is not open, of the index in the directory. -/
def Trusted (caching : Caching) (version : String) (file : Path) (text : String) (s : σ) : Prop :=
  ∃ fingerprint, Ready caching version file fingerprint text s

/-- The index in a directory and the module of a file are what they were. Other files may have
changed. -/
structure Preserved (caching : Caching) (file : Path) (before after : σ) : Prop where
  index : indexIn after caching.directory = indexIn before caching.directory
  text : (disk after).readText (here after)
      ((ModuleStore.mk caching.directory).path (caching.root.stored file)) =
    (disk before).readText (here before)
      ((ModuleStore.mk caching.directory).path (caching.root.stored file))

omit [MonadStateOf LoaderState (StateM σ)] [LoaderHost σ] in
theorem Same.preserved (h : Same before after) (caching : Caching) (file : Path) :
    Preserved caching file before after where
  index := h.indexIn_eq caching.directory
  text := by rw [h.disk, h.here]

/-- Where the index in the directory serves the version, opening the cache changes no file. -/
theorem openCache_of_served {index : CacheIndex} (hopened : ∀ cache ∈ (loader s).cache,
      Opened caching.root caching.directory version cache)
    (hindex : indexIn s caching.directory = some index) (hserves : index.serves version) :
    ∃ cache opened, run s (Loader.openCache caching version) = (.ok cache, opened) ∧
      Same s opened ∧ Opened caching.root caching.directory version cache ∧
      (loader opened).cache = some cache ∧
      (∀ held ∈ (loader s).cache, held = cache) ∧
      ((loader s).cache = none → cache.index = index) := by
  cases hcache : (loader s).cache with
  | some cache =>
    refine ⟨cache, s, run_openCache hcache caching version, .refl s, hopened cache hcache, hcache,
      fun held hheld => ?_, nofun⟩
    exact (Option.some.inj hheld).symm
  | none =>
    have hopen : (run s (Cache.openAt caching.root caching.directory version)).1 =
          .ok ⟨caching.root, ⟨caching.directory⟩, version, index⟩ ∧
        Same s (run s (Cache.openAt caching.root caching.directory version)).2 :=
      run_openAt_of_indexIn hindex hserves
    rw [run_openCache_of_none hcache]
    generalize run s (Cache.openAt caching.root caching.directory version) = outcome at hopen
    obtain ⟨result, told⟩ := outcome
    obtain ⟨rfl, hsame⟩ := hopen
    refine ⟨_, _, rfl, hsame.trans (same_setCache told _), ?_, ?_, nofun, fun _ => rfl⟩
    · exact ⟨rfl, rfl, (serves_iff.mp hserves).2, wellFormed_of_indexIn hindex hserves⟩
    · rw [loader_setCache]

/-- A loader whose cache serves a text goes by a fresh fingerprint. -/
theorem trusted_of_get? {opened : σ} {index : CacheIndex}
    (hindex : indexIn s caching.directory = some index) (hserves : index.serves version)
    (hcache : Opened caching.root caching.directory version cache)
    (hsame : Same s opened) (hloader : (loader opened).cache = some cache)
    (hheld : ∀ held ∈ (loader s).cache, held = cache)
    (hnone : (loader s).cache = none → cache.index = index)
    (hget : (run opened (cache.get? file)).1 = some text) :
    Trusted caching version file text s := by
  obtain ⟨fingerprint, hentry, hready⟩ := ready_of_get? hcache hloader hget
  refine ⟨fingerprint, fun held hmem => ?_, fun hclosed => ?_, ?_, ?_⟩
  · obtain rfl := hheld held hmem
    exact ⟨hcache, hentry⟩
  · rw [hnone hclosed] at hentry
    exact ⟨index, hindex, hserves, hentry⟩
  · rw [← hsame.fingerprintOf_eq]
    exact hready.fresh
  · rw [← hsame.disk, ← hsame.here]
    exact hready.text

theorem trusted_text {other : String} (h : Trusted caching version file other s)
    (htext : (disk s).readText (here s)
      ((ModuleStore.mk caching.directory).path (caching.root.stored file)) = .ok text) :
    other = text := by
  obtain ⟨fingerprint, hready⟩ := h
  exact Except.ok.inj (hready.text.symm.trans htext)

/-- A loader that does not go by a fresh fingerprint gives back what it would without a cache,
unless the cache fails. -/
theorem load_of_untrusted (hsane : Sane caching version (loader s))
    (hserving : Serving caching version l) (hfunctional : l.builder.Functional)
    {index : CacheIndex} (hindex : indexIn s caching.directory = some index)
    (hserves : index.serves version)
    (huntrusted : ∀ text, ¬Trusted caching version file text s) (source : String) :
    (run s (l.load source file)).1 = (run s (l.uncached.load source file)).1 ∨
      ∃ e, (run s (l.load source file)).1 = .error (.cache e) := by
  obtain ⟨result, module, last, hcourse, -, hload⟩ :=
    exists_course hserving hsane.idle source file
  have hstarted := same_setBusy s true
  have hbusy := loader_setBusy s true
  rw [run_load_uncached hsane.idle, hload]
  generalize (run s (Loader.setBusy true)).2 = started at hcourse hstarted hbusy ⊢
  have hcaches : (loader started).cache = (loader s).cache := by rw [hbusy]
  have hstartedIndex : indexIn started caching.directory = some index := by
    rw [hstarted.indexIn_eq, hindex]
  obtain ⟨cache, opened, hopen, hsame, hopened, hloader, hheld, hnone⟩ :=
    openCache_of_served (by rw [hcaches]; exact hsane.cache) hstartedIndex hserves
  rw [hcaches] at hheld hnone
  have hasked := same_get? opened cache file
  cases hcourse with
  | unopened e failed opening =>
    rw [hopen] at opening
    cases opening
  | served cache' opened' code asked opening hit =>
    rw [hopen] at opening
    cases opening
    have htrusted : Trusted caching version file code s :=
      trusted_of_get? hindex hserves hopened (hstarted.trans hsame) hloader hheld hnone
        (by rw [hit])
    exact absurd htrusted (huntrusted code)
  | refused cache' opened' missed e after opening miss answer =>
    rw [hopen] at opening
    cases opening
    rw [miss] at hasked
    rw [hfunctional.same_build (hsame.trans hasked), answer]
    exact .inl rfl
  | built cache' opened' missed module ready result stored after opening miss answer put =>
    rw [hopen] at opening
    cases opening
    rw [miss] at hasked
    rw [hfunctional.same_build (hsame.trans hasked), answer]
    cases result with
    | error e => exact .inr ⟨e, rfl⟩
    | ok => exact .inl rfl

variable [Secluded σ]

/-- A module that a call built and gave back is in the cache, and its fingerprint is in the
index. -/
theorem ready_of_builtBy (hroot : caching.root.isAbsolute)
    (hnames : ModuleStore.names (caching.root.stored file) ≠ CacheIndex.names)
    (hsane : Sane caching version (loader s)) (hserving : Serving caching version l)
    (hbuilt : builtBy s l source file = some built)
    (h : (run s (l.load source file)).1 = .ok text)
    (hsteady : Steady (run s (l.load source file)).2 caching.root caching.directory
      built.dependencies) :
    ∃ fingerprint, Ready caching version file fingerprint text (run s (l.load source file)).2 ∧
      Documented caching version file fingerprint (run s (l.load source file)).2 := by
  obtain ⟨cache, opened, hopened, -, -, ⟨hunbuilt, -⟩ |
    ⟨module, ready, hmodule, hcode, hcomponent, hput, hsame, hheld⟩⟩ := load_eq_ok hsane hserving h
  · rw [hbuilt] at hunbuilt
    cases hunbuilt
  · obtain rfl : module = built := Option.some.inj (hmodule.symm.trans hbuilt)
    subst hcomponent hcode
    obtain ⟨fingerprint, hready⟩ := ready_of_put hroot hopened hnames hput hsame hsteady hheld
    have hentry := (hready.cache _ hheld).2
    exact ⟨fingerprint, hready, (documented_of_put hopened hput hentry).same hsame⟩

/-- A cache does not look at the options of a loader. Once a loader has built and stored a module,
every loader with the same cache, whatever its options are, gives back that module as long as it
goes by a fresh fingerprint, and otherwise what it would give back without a cache, unless the cache
fails. One that starts anew on the same files goes by a fresh fingerprint. -/
theorem load_across_options (hroot : caching.root.isAbsolute)
    (hnames : ModuleStore.names (caching.root.stored file) ≠ CacheIndex.names)
    (hhooked : Hooked caching version before) (hserving : Serving caching version l)
    (hbuilt : builtBy before l source file = some built)
    (h : (run before (l.load source file)).1 = .ok text)
    (hsteady : Steady (run before (l.load source file)).2 caching.root caching.directory
      built.dependencies) :
    (∀ s : σ, Same (run before (l.load source file)).2 s → loader s = {} →
        Trusted caching version file text s) ∧
      ∀ (s : σ) (l' : Loader (StateM σ)) (source' : String),
        Preserved caching file (run before (l.load source file)).2 s →
          Sane caching version (loader s) → Serving caching version l' →
            (Trusted caching version file text s →
                (run s (l'.load source' file)).1 = .ok text) ∧
              (¬Trusted caching version file text s → l'.builder.Functional →
                (run s (l'.load source' file)).1 =
                    (run s (l'.uncached.load source' file)).1 ∨
                  ∃ e, (run s (l'.load source' file)).1 = .error (.cache e)) := by
  obtain ⟨fingerprint, hready, hdocumented⟩ :=
    ready_of_builtBy hroot hnames hhooked.sane hserving hbuilt h hsteady
  generalize (run before (l.load source file)).2 = stored at hready hdocumented ⊢
  refine ⟨fun s hsame hnew => ?_, fun s l' source' hpreserved hsane hserving' => ⟨?_, ?_⟩⟩
  · exact ⟨fingerprint, hready.renew hsame (by rw [hnew]) hdocumented⟩
  · rintro ⟨fingerprint, htrusted⟩
    obtain ⟨after, -, -, -, hload⟩ := htrusted.load hsane.idle
    rw [hload l' source' hserving']
  · intro huntrusted hfunctional
    obtain ⟨index, hindex, hserves, -⟩ := hdocumented
    rw [← hpreserved.index] at hindex
    have htext := hready.text
    rw [← hpreserved.text] at htext
    refine load_of_untrusted hsane hserving' hfunctional hindex hserves (fun other hother => ?_)
      source'
    obtain rfl := trusted_text hother htext
    exact huntrusted hother

end Trust

namespace Templated

/-- The loader of the example as another project would have it, for the other form of modules. -/
def dynamic : Loader (StateM World) := { loader with builder := { builder with options := {} } }

/-- The component was modified after it was loaded, and a loader starts anew. -/
def touched : World := rewritten "App.vue" "x" (renewed loaded)

theorem functional_dynamic : dynamic.builder.Functional where
  toLeavesFiles := ⟨leavesFiles_builder.parse, leavesFiles_builder.compileScript,
    leavesFiles_builder.compileTemplate, nofun, leavesFiles_builder.deliver⟩
  parse_constant _ _ := constant_pure _
  compileScript_constant _ _ := constant_pure _
  compileTemplate_constant _ := constant_pure _
  transpile_constant := nofun

/-- The component is served after it was loaded, also to a loader that opens the cache anew. -/
theorem ready_loaded : ∃ fingerprint,
    Ready ⟨⟨"/p"⟩, ⟨"/c"⟩⟩ "2.7.0" setting.file fingerprint "x\na()\n" loaded ∧
      Documented ⟨⟨"/p"⟩, ⟨"/c"⟩⟩ "2.7.0" setting.file fingerprint loaded := by
  obtain ⟨hload, hfiles⟩ := loads_template
  obtain ⟨built, hbuilt, hdependencies⟩ := Option.map_eq_some_iff.mp hfiles
  refine ready_of_builtBy (by decide) (by decide) (sane_new _ _) ⟨rfl, rfl⟩ hbuilt hload ?_
  rw [hdependencies]
  exact steady_loaded

/-- A text at another place than the component is what it was. -/
theorem readText_touched {path : Path} {place : Place} (hother : place ≠ ["p", "App.vue"])
    (hplaces : (disk loaded).locate (here loaded) path = .ok place ∧
      (disk touched).locate (here touched) path = .ok place) :
    (disk touched).readText (here touched) path = (disk loaded).readText (here loaded) path := by
  have hfile : ((disk (renewed loaded)).fileAt ["p", "App.vue"]).isSome := by decide +kernel
  have hnode := (edited_rewritten (renewed loaded) "App.vue" "x" hfile).others place hother
  rw [(same_renewed loaded).disk] at hnode
  exact readText_congr hplaces.1 hplaces.2 hnode

/-- The component is no file of the cache. -/
theorem preserved_touched : Preserved ⟨⟨"/p"⟩, ⟨"/c"⟩⟩ setting.file loaded touched where
  index := by
    have hread : (disk touched).readText (here touched) ((⟨"/c"⟩ : Path).join CacheIndex.fileName) =
        (disk loaded).readText (here loaded) ((⟨"/c"⟩ : Path).join CacheIndex.fileName) :=
      readText_touched (by decide : ["c", "revue.json"] ≠ ["p", "App.vue"]) (by decide +kernel)
    rw [indexIn, indexIn, hread]
  text := readText_touched (by decide : ["c", "App.vue"] ≠ ["p", "App.vue"]) (by decide +kernel)

/-- The fingerprint that the first loader knows is no longer that of the component. -/
theorem stale_touched : ((LoaderHost.loader loaded).cache.bind fun cache =>
    Keyed.get? ((⟨"/p"⟩ : Path).stored setting.file) cache.index.entries).any fun fingerprint =>
      !(fingerprintOf touched ⟨"/p"⟩ (fingerprint.dependencies ⟨"/p"⟩ setting.file)).same
        fingerprint := by
  decide +kernel

theorem not_trusted_touched (text : String) :
    ¬Trusted ⟨⟨"/p"⟩, ⟨"/c"⟩⟩ "2.7.0" setting.file text touched := by
  rintro ⟨fingerprint, htouched⟩
  obtain ⟨known, hready, index, hindex, -, hentry⟩ := ready_loaded
  obtain ⟨found, hfound, -, hfingerprint⟩ := htouched.index rfl
  -- The document of the index was not changed, so the fingerprint in it is the one that is known.
  rw [preserved_touched.index, hindex] at hfound
  cases hfound
  rw [hentry] at hfingerprint
  cases hfingerprint
  obtain ⟨stale, hstale, hnot⟩ := (Option.any_eq_true _ _).mp stale_touched
  obtain ⟨cache, hcache, hstale⟩ := Option.bind_eq_some_iff.mp hstale
  rw [(hready.cache cache hcache).2] at hstale
  cases hstale
  rw [htouched.fresh] at hnot
  cases hnot

end Templated

open Templated in
/-- The component was loaded as a static module. A loader for dynamic modules is served that module,
and once the component was modified it gives back its own. -/
theorem load_across_options_of_formats :
    (run unloaded (loader.load "x" setting.file)).1 = .ok "x\na()\n" ∧
      (run (renewed loaded) (dynamic.load "x" setting.file)).1 = .ok "x\na()\n" ∧
      ((run touched (dynamic.load "x" setting.file)).1 =
          (run touched (dynamic.uncached.load "x" setting.file)).1 ∨
        ∃ e, (run touched (dynamic.load "x" setting.file)).1 = .error (.cache e)) := by
  obtain ⟨hload, hfiles⟩ := loads_template
  obtain ⟨built, hbuilt, hdependencies⟩ := Option.map_eq_some_iff.mp hfiles
  have hhooked : Hooked ⟨⟨"/p"⟩, ⟨"/c"⟩⟩ "2.7.0" unloaded := .new unloaded rfl
  obtain ⟨hnew, hsecond⟩ := load_across_options (by decide) (by decide) hhooked ⟨rfl, rfl⟩ hbuilt
    hload (by rw [hdependencies]; exact steady_loaded)
  have htrusted := hnew (renewed loaded) (same_renewed loaded) rfl
  have hserved := hsecond (renewed loaded) dynamic "x"
    ((same_renewed loaded).preserved _ _) (sane_new _ _) ⟨rfl, rfl⟩
  have hrebuilt := hsecond touched dynamic "x" preserved_touched (sane_new _ _) ⟨rfl, rfl⟩
  exact ⟨hload, hserved.1 htrusted, hrebuilt.2 (not_trusted_touched _) functional_dynamic⟩

open Templated in
/-- What a loader for dynamic modules gives back after a static module was stored is not what it
would give back without a cache. -/
theorem load_ne_uncached :
    (run unloaded (loader.load "x" setting.file)).1 = .ok "x\na()\n" ∧
      (run (renewed loaded) (dynamic.load "x" setting.file)).1 = .ok "x\na()\n" ∧
      (run (renewed loaded) (dynamic.uncached.load "x" setting.file)).1 ≠
        .ok "x\na()\n" := by
  obtain ⟨fingerprint, hready, hdocumented⟩ := ready_loaded
  obtain ⟨after, -, -, -, hserved⟩ :=
    (hready.renew (same_renewed loaded) rfl hdocumented).load rfl
  refine ⟨loads_template.1, by rw [hserved dynamic "x" ⟨rfl, rfl⟩], ?_⟩
  decide +kernel

end Host
end ComponentCompiler
