import ComponentCompiler.Proofs.Build.Dependencies
import ComponentCompiler.Proofs.Loader.Hooks
import ComponentCompiler.Proofs.Loader.Interleaving

/-!
# What was loaded is served

Once a call has given back the module of a component, the cache serves that module for as long as no
file changes: to the loader itself, which knows the fingerprint of the module, and to one that opens
the cache anew and reads the fingerprint from the document of the index (`Ready`). Such a call asks
no collaborator and changes no file (`load_of_loaded`). The conditions cannot be dropped
(`load_ne_loaded`).
-/

namespace ComponentCompiler

namespace Host

open Disk LoaderHost

variable {σ : Type} [Files (StateM σ)] [Journal (StateM σ)] [MonadStateOf LoaderState (StateM σ)]
variable [Host σ] [LoaderHost σ]
variable {s before after : σ} {l : Loader (StateM σ)} {cache : Cache} {caching : Caching}
  {version source text : String} {file : Path} {fingerprint : Fingerprint}

section Ready

/-- The index in the directory of a cache serves the version and has a fingerprint for a file. -/
def Documented (caching : Caching) (version : String) (file : Path) (fingerprint : Fingerprint)
    (s : σ) : Prop :=
  ∃ index, indexIn s caching.directory = some index ∧ index.serves version ∧
    Keyed.get? (caching.root.stored file) index.entries = some fingerprint

/-- The index in the directory of a cache has the fingerprint that the loader knows for a file. -/
def Recorded (caching : Caching) (version : String) (file : Path) (s : σ) : Prop :=
  ∀ cache ∈ (loader s).cache, ∀ fingerprint,
    Keyed.get? (caching.root.stored file) cache.index.entries = some fingerprint →
      Documented caching version file fingerprint s

/-- The cache serves a text for a file, whether it is open or not. -/
structure Ready (caching : Caching) (version : String) (file : Path) (fingerprint : Fingerprint)
    (text : String) (s : σ) : Prop where
  cache : ∀ cache ∈ (loader s).cache,
    Opened caching.root caching.directory version cache ∧
      Keyed.get? (caching.root.stored file) cache.index.entries = some fingerprint
  index : (loader s).cache = none → Documented caching version file fingerprint s
  fresh : (fingerprintOf s caching.root (fingerprint.dependencies caching.root file)).same
    fingerprint
  text : (disk s).readText (here s)
    ((ModuleStore.mk caching.directory).path (caching.root.stored file)) = .ok text

omit [MonadStateOf LoaderState (StateM σ)] [LoaderHost σ] in
theorem Documented.same (h : Documented caching version file fingerprint s) (hsame : Same s after) :
    Documented caching version file fingerprint after := by
  rwa [Documented, hsame.indexIn_eq]

theorem Recorded.same (h : Recorded caching version file s) (hsame : Same s after)
    (hcache : (loader after).cache = (loader s).cache) : Recorded caching version file after := by
  intro cache hheld fingerprint hentry
  rw [hcache] at hheld
  exact (h cache hheld fingerprint hentry).same hsame

/-- A text is still served when no file has changed. -/
theorem Ready.same (h : Ready caching version file fingerprint text s) (hsame : Same s after)
    (hcache : (loader after).cache = (loader s).cache) :
    Ready caching version file fingerprint text after where
  cache := by rw [hcache]; exact h.cache
  index hnone := (h.index (hcache ▸ hnone)).same hsame
  fresh := by rw [hsame.fingerprintOf_eq]; exact h.fresh
  text := by rw [hsame.disk, hsame.here]; exact h.text

/-- A loader that starts anew is served if the index has the fingerprint. -/
theorem Ready.renew (h : Ready caching version file fingerprint text s) (hsame : Same s after)
    (hnone : (loader after).cache = none)
    (hdocumented : Documented caching version file fingerprint s) :
    Ready caching version file fingerprint text after where
  cache := by rw [hnone]; exact nofun
  index _ := hdocumented.same hsame
  fresh := by rw [hsame.fingerprintOf_eq]; exact h.fresh
  text := by rw [hsame.disk, hsame.here]; exact h.text

variable [Secluded σ]

/-- Opening the cache changes no file, and then the loader knows the fingerprint. -/
theorem Ready.opens (h : Ready caching version file fingerprint text s) :
    ∃ cache opened, run s (Loader.openCache caching version) = (.ok cache, opened) ∧
      Same s opened ∧ loader opened = { loader s with cache := some cache } ∧
      Ready caching version file fingerprint text opened := by
  cases hcache : (loader s).cache with
  | some cache =>
    refine ⟨cache, s, run_openCache hcache caching version, .refl s, ?_, h⟩
    rw [← hcache]
  | none =>
    obtain ⟨index, hindex, hserves, hentry⟩ := h.index hcache
    have hopen : (run s (Cache.openAt caching.root caching.directory version)).1 =
          .ok ⟨caching.root, ⟨caching.directory⟩, version, index⟩ ∧
        Same s (run s (Cache.openAt caching.root caching.directory version)).2 :=
      run_openAt_of_indexIn hindex hserves
    have hkeeps := keepsLoader_openAt caching.root caching.directory version s
    rw [run_openCache_of_none hcache]
    generalize run s (Cache.openAt caching.root caching.directory version) = outcome
      at hopen hkeeps
    obtain ⟨result, told⟩ := outcome
    obtain ⟨rfl, hsame⟩ := hopen
    have hset := same_setCache told (some ⟨caching.root, ⟨caching.directory⟩, version, index⟩)
    have hloader := loader_setCache told (some ⟨caching.root, ⟨caching.directory⟩, version, index⟩)
    refine ⟨_, _, rfl, hsame.trans hset, ?_, ?_⟩
    · rw [hloader]
      exact congrArg (fun state => { state with
        cache := some ⟨caching.root, ⟨caching.directory⟩, version, index⟩ }) hkeeps
    · have hformed := wellFormed_of_indexIn hindex hserves
      refine ⟨fun held hheld => ?_, fun hnone => ?_, ?_, ?_⟩
      · rw [hloader] at hheld
        rw [← Option.some.inj hheld]
        exact ⟨⟨rfl, rfl, (serves_iff.mp hserves).2, hformed⟩, hentry⟩
      · rw [hloader] at hnone
        cases hnone
      · rw [(hsame.trans hset).fingerprintOf_eq]
        exact h.fresh
      · rw [(hsame.trans hset).disk, (hsame.trans hset).here]
        exact h.text

/-- A call that is not made during another is served, whoever would build the module and from
whatever text, and changes nothing but what is told. -/
theorem Ready.load (h : Ready caching version file fingerprint text s)
    (hidle : (loader s).busy = false) :
    ∃ after, Same s after ∧ (loader after).busy = false ∧
      Ready caching version file fingerprint text after ∧
      ∀ (l : Loader (StateM σ)) (source : String), Serving caching version l →
        run s (l.load source file) = (.ok text, after) := by
  have hstarted := same_setBusy s true
  have hbusy := loader_setBusy s true
  have hready := h.same hstarted (by rw [hbusy])
  obtain ⟨cache, opened, hopen, hsame, hloader, hready⟩ := hready.opens
  obtain ⟨hopened, hentry⟩ := hready.cache cache (by rw [hloader]; rfl)
  have hkey : cache.keyOf file = caching.root.stored file := by rw [Cache.keyOf, hopened.root]
  have hget : (run opened (cache.get? file)).1 = some text := by
    apply get?_eq_some
    · rw [run_isFresh, hkey, hentry, hopened.root]
      exact hready.fresh
    · rw [hkey]
      have hstore : cache.store = ⟨caching.directory⟩ := congrArg ModuleStore.mk hopened.directory
      rw [hstore]
      exact hready.text
  have hasked := same_get? opened cache file
  have hkept := keepsLoader_get? cache file opened
  have hfinished := same_setBusy (run opened (cache.get? file)).2 false
  have hidle' := loader_setBusy (run opened (cache.get? file)).2 false
  refine ⟨(run (run opened (cache.get? file)).2 (Loader.setBusy false)).2,
    hstarted.trans (hsame.trans (hasked.trans hfinished)), by rw [hidle'],
    hready.same (hasked.trans hfinished) (by rw [hidle', hkept]), fun l source hserving => ?_⟩
  rw [run_load_of_idle hidle, run_loadAlone_of_caching hserving.caching, hserving.version, hopen]
  dsimp only
  generalize run opened (cache.get? file) = asked at hget
  obtain ⟨served, asked⟩ := asked
  obtain rfl : served = some text := hget
  rfl

end Ready

section First

/-- What is served is what a loader with the same cache will be served. -/
theorem ready_of_get? (hopened : Opened caching.root caching.directory version cache)
    (hcache : (loader s).cache = some cache) (h : (run s (cache.get? file)).1 = some text) :
    ∃ fingerprint,
      Keyed.get? (caching.root.stored file) cache.index.entries = some fingerprint ∧
        Ready caching version file fingerprint text s := by
  obtain ⟨hfresh, hread⟩ := of_get?_eq_some h
  have hkey : cache.keyOf file = caching.root.stored file := by rw [Cache.keyOf, hopened.root]
  have hstore : cache.store = ⟨caching.directory⟩ := congrArg ModuleStore.mk hopened.directory
  rw [run_isFresh, hkey, hopened.root] at hfresh
  rw [hkey, hstore] at hread
  cases hentry : Keyed.get? (caching.root.stored file) cache.index.entries with
  | none =>
    rw [hentry] at hfresh
    cases hfresh
  | some fingerprint =>
    rw [hentry] at hfresh
    refine ⟨fingerprint, rfl, fun held hheld => ?_, fun hnone => ?_, hfresh, hread⟩
    · rw [hcache] at hheld
      rw [← Option.some.inj hheld]
      exact ⟨hopened, hentry⟩
    · rw [hcache] at hnone
      cases hnone

omit [MonadStateOf LoaderState (StateM σ)] [LoaderHost σ] in
/-- Where a cache is opened with a fingerprint, that was in its directory. -/
theorem documented_of_openAt
    (h : (run s (Cache.openAt caching.root caching.directory version)).1 = .ok cache)
    (hentry : Keyed.get? (caching.root.stored file) cache.index.entries = some fingerprint) :
    Documented caching version file fingerprint s ∧
      Same s (run s (Cache.openAt caching.root caching.directory version)).2 := by
  rcases run_openAt_cases s caching.root caching.directory version with
    ⟨found, hread, hserves, hcache, hsame⟩ | ⟨-, ⟨-, hcache, -⟩ | ⟨-, middle, -, hcache, -⟩⟩
  · rw [hcache] at h
    cases h
    exact ⟨⟨found, hread, hserves, hentry⟩, hsame⟩
  · rw [hcache] at h
    cases h
    cases hentry
  · rw [hcache] at h
    obtain ⟨_, -, rfl⟩ := ok_of_map h
    cases hentry

omit [MonadStateOf LoaderState (StateM σ)] [LoaderHost σ] in
/-- After a module was stored, what the cache knows is in its directory. -/
theorem documented_of_put {files : Dependencies} {content : String}
    (hopened : Opened caching.root caching.directory version cache)
    (hok : (run s (cache.put files content)).1.1.isOk)
    (hentry : Keyed.get? (caching.root.stored file)
      (run s (cache.put files content)).1.2.index.entries = some fingerprint) :
    Documented caching version file fingerprint (run s (cache.put files content)).2 := by
  have hput := hopened.put s files content
  obtain ⟨started, ready, hfiled, hstamped⟩ := filed_of_put hok
  have hindex := hfiled.indexIn (wellFormed_stamped hopened.formed ready files)
  rw [hopened.directory, ← hstamped] at hindex
  exact ⟨_, hindex, serves_iff.mpr ⟨hput.formed.version, hput.version⟩, hentry⟩

/-- A module that was built and stored is served from then on. -/
theorem ready_of_put {files : Dependencies} {content : String} (hroot : caching.root.isAbsolute)
    (hopened : Opened caching.root caching.directory version cache)
    (hnames : ModuleStore.names (caching.root.stored files.component) ≠ CacheIndex.names)
    (hok : (run s (cache.put files content)).1.1.isOk)
    (hsame : Same (run s (cache.put files content)).2 after)
    (hsteady : Steady after caching.root caching.directory files)
    (hcache : (loader after).cache = some (run s (cache.put files content)).1.2) :
    ∃ fingerprint, Ready caching version files.component fingerprint content after := by
  have hput := hopened.put s files content
  obtain ⟨started, ready, hfiled, hstamped⟩ := filed_of_put hok
  rw [hstamped] at hcache hput
  have hkey : cache.keyOf files.component = caching.root.stored files.component := by
    rw [Cache.keyOf, hopened.root]
  have hstore : cache.store = ⟨caching.directory⟩ := congrArg ModuleStore.mk hopened.directory
  have hentry : Keyed.get? (caching.root.stored files.component)
      (stamped ready cache files).index.entries =
        some (fingerprintOf ready caching.root files) := by
    rw [stamped, hkey, hopened.root, Keyed.get?_insert, if_pos rfl]
  have htext := hfiled.readText (by rwa [hkey])
  have hfresh := hfiled.same_fingerprint (hopened.root ▸ hroot)
    (by rw [hopened.root, hopened.directory]; exact hsteady.of_here hsame.here.symm)
  rw [hopened.root] at hfresh
  rw [hkey, hstore] at htext
  refine ⟨fingerprintOf ready caching.root files, fun held hheld => ?_, fun hnone => ?_, ?_, ?_⟩
  · rw [hcache] at hheld
    rw [← Option.some.inj hheld]
    exact ⟨hput, hentry⟩
  · rw [hcache] at hnone
    cases hnone
  · rw [hsame.fingerprintOf_eq]
    exact hfresh
  · rw [hsame.disk, hsame.here]
    exact htext

/-- Once the cache is open, what the loader knows for a file was known before and recorded, or was
read from the directory. -/
theorem documented_of_openCache {opened : σ}
    (hopen : run s (Loader.openCache caching version) = (.ok cache, opened))
    (hentry : Keyed.get? (caching.root.stored file) cache.index.entries = some fingerprint)
    (hrecorded : Recorded caching version file s) :
    Documented caching version file fingerprint opened := by
  rcases openCache_cases hopen with ⟨held, hheld, heq, rfl⟩ | ⟨e, -, heq⟩ |
    ⟨anew, middle, hanew, heq, rfl⟩
  · cases heq
    exact hrecorded cache hheld fingerprint hentry
  · cases heq
  · cases heq
    obtain ⟨hdocument, hsame⟩ := documented_of_openAt (by rw [hanew]) hentry
    rw [hanew] at hsame
    exact hdocument.same (hsame.trans (same_setCache middle (some cache)))

variable [Secluded σ]

/-- What a call did that gave back a text: once its cache was open the text was served, or else a
module with this text was built and stored. -/
theorem load_eq_ok (hsane : Sane caching version (loader s)) (hserving : Serving caching version l)
    (h : (run s (l.load source file)).1 = .ok text) :
    ∃ cache opened, Opened caching.root caching.directory version cache ∧
      (loader opened).cache = some cache ∧
      (∀ other fingerprint,
        Keyed.get? (caching.root.stored other) cache.index.entries = some fingerprint →
          Recorded caching version other s → Documented caching version other fingerprint opened) ∧
      (builtBy s l source file = none ∧ (run opened (cache.get? file)).1 = some text ∧
          Same opened (run s (l.load source file)).2 ∧
          (loader (run s (l.load source file)).2).cache = some cache ∨
        ∃ built ready, builtBy s l source file = some built ∧ built.code = text ∧
          built.dependencies.component = file ∧
          (run ready (cache.put built.dependencies built.code)).1.1.isOk ∧
          Same (run ready (cache.put built.dependencies built.code)).2
            (run s (l.load source file)).2 ∧
          (loader (run s (l.load source file)).2).cache =
            some (run ready (cache.put built.dependencies built.code)).1.2) := by
  obtain ⟨result, module, last, hcourse, hmodule, hload⟩ :=
    exists_course hserving hsane.idle source file
  have hstarted := same_setBusy s true
  have hbusy := loader_setBusy s true
  have hlast := same_setBusy last false
  have hidle := loader_setBusy last false
  generalize (run s (Loader.setBusy true)).2 = started at hcourse hstarted hbusy
  have hstart : ∀ cache ∈ (loader started).cache,
      Opened caching.root caching.directory version cache := by
    rw [hbusy]
    exact hsane.cache
  have hdocumented : ∀ {cache : Cache} {opened : σ},
      run started (Loader.openCache caching version) = (.ok cache, opened) →
        ∀ other fingerprint,
          Keyed.get? (caching.root.stored other) cache.index.entries = some fingerprint →
            Recorded caching version other s →
              Documented caching version other fingerprint opened :=
    fun hopen other fingerprint hentry hrecorded =>
      documented_of_openCache hopen hentry (hrecorded.same hstarted (by rw [hbusy]))
  rw [hload] at h ⊢
  rw [hmodule]
  cases hcourse with
  | unopened e failed opening => cases h
  | served cache opened code asked opening hit =>
    cases h
    have hasked := same_get? opened cache file
    rw [hit] at hasked
    refine ⟨cache, opened, opened_of_openCache hstart opening, by rw [loader_of_opened opening],
      hdocumented opening, .inl ⟨rfl, by rw [hit], hasked.trans hlast, ?_⟩⟩
    rw [hidle, loader_of_asked opening hit]
  | refused cache opened missed e after opening miss answer => cases h
  | built cache opened missed module ready result stored after opening miss answer put =>
    obtain ⟨hcomponent, -⟩ := Builder.dependencies_of_build (yields_of_run (by rw [answer]))
    cases result with
    | error e => cases h
    | ok =>
      cases h
      refine ⟨cache, opened, opened_of_openCache hstart opening, by rw [loader_of_opened opening],
        hdocumented opening, .inr ⟨module, ready, rfl, rfl, hcomponent, ?_⟩⟩
      rw [put]
      refine ⟨rfl, (same_setCache after (some stored)).trans hlast, ?_⟩
      rw [hidle, loader_setCache]

/-- What a call gave back is served from then on. -/
theorem ready_of_load (hroot : caching.root.isAbsolute)
    (hnames : ModuleStore.names (caching.root.stored file) ≠ CacheIndex.names)
    (hsane : Sane caching version (loader s)) (hserving : Serving caching version l)
    (h : (run s (l.load source file)).1 = .ok text)
    (hsteady : ∀ built ∈ builtBy s l source file,
      Steady (run s (l.load source file)).2 caching.root caching.directory built.dependencies) :
    ∃ fingerprint,
      Ready caching version file fingerprint text (run s (l.load source file)).2 ∧
        (loader (run s (l.load source file)).2).cache.isSome := by
  obtain ⟨cache, opened, hopened, hcache, -, ⟨-, hget, hsame, hheld⟩ |
    ⟨built, ready, hbuilt, rfl, rfl, hok, hsame, hheld⟩⟩ := load_eq_ok hsane hserving h
  · obtain ⟨fingerprint, -, hready⟩ := ready_of_get? hopened hcache hget
    exact ⟨fingerprint, hready.same hsame (hheld.trans hcache.symm), by rw [hheld]; rfl⟩
  · obtain ⟨fingerprint, hready⟩ :=
      ready_of_put hroot hopened hnames hok hsame (hsteady built hbuilt) hheld
    exact ⟨fingerprint, hready, by rw [hheld]; rfl⟩

/-- As long as its calls give back texts, what a loader knows for a file is recorded in its
directory. -/
theorem Recorded.load {other : Path} (hrecorded : Recorded caching version other s)
    (hsane : Sane caching version (loader s)) (hserving : Serving caching version l)
    (h : (run s (l.load source file)).1 = .ok text) :
    Recorded caching version other (run s (l.load source file)).2 := by
  intro held hheld' fingerprint hentry
  obtain ⟨cache, opened, hopened, hcache, hdocumented, ⟨-, hget, hsame, hheld⟩ |
    ⟨built, ready, hbuilt, rfl, rfl, hok, hsame, hheld⟩⟩ := load_eq_ok hsane hserving h
  · obtain rfl : cache = held := Option.some.inj (hheld.symm.trans hheld')
    exact (hdocumented other fingerprint hentry hrecorded).same hsame
  · obtain rfl := Option.some.inj (hheld.symm.trans hheld')
    exact (documented_of_put hopened hok hentry).same hsame

end First

section Afterwards

/-- The states that follow a call as long as no file changes and no other component is stored. A
loader may start anew if what the first one knew before the call was in the directory. -/
inductive Later (caching : Caching) (version : String) (file : Path) (before s : σ) : σ → Prop
  | start : Later caching version file before s s
  /-- Something happens that neither a file nor the loader shows. -/
  | told {s' : σ} (later : Later caching version file before s s') (after : σ)
      (same : Same s' after) (kept : loader after = loader s') :
      Later caching version file before s after
  /-- The same component is loaded, by any loader that keeps its cache there, from any text. -/
  | again {s' : σ} (later : Later caching version file before s s') (l : Loader (StateM σ))
      (serving : Serving caching version l) (source : String) :
      Later caching version file before s (run s' (l.load source file)).2
  /-- Another component is asked for, but nothing is built and no file changes. -/
  | other {s' : σ} (later : Later caching version file before s s') (l : Loader (StateM σ))
      (serving : Serving caching version l) (foreign : Foreign l) (source : String) (other : Path)
      (unbuilt : builtBy s' l source other = none)
      (same : Same s' (run s' (l.load source other)).2) :
      Later caching version file before s (run s' (l.load source other)).2
  /-- A loader starts anew. -/
  | renewed {s' : σ} (later : Later caching version file before s s') (after : σ)
      (recorded : Recorded caching version file before) (same : Same s' after)
      (fresh : loader after = {}) : Later caching version file before s after

variable [Secluded σ]

/-- A call that builds nothing leaves what is served for other components as it is. -/
theorem Ready.load_other {other : Path} (h : Ready caching version file fingerprint text s)
    (hidle : (loader s).busy = false) (hserving : Serving caching version l)
    (hforeign : Foreign l) (hunbuilt : builtBy s l source other = none)
    (hsame : Same s (run s (l.load source other)).2) :
    (loader (run s (l.load source other)).2).busy = false ∧
      Ready caching version file fingerprint text (run s (l.load source other)).2 := by
  obtain ⟨result, module, last, hcourse, hmodule, hload⟩ :=
    exists_course hserving hidle source other
  have hstarted := same_setBusy s true
  have hbusy := loader_setBusy s true
  have hready := h.same hstarted (by rw [hbusy])
  generalize (run s (Loader.setBusy true)).2 = started at hcourse hstarted hbusy hready
  obtain ⟨cache, opened, hopen, hopened, hloader, hready⟩ := hready.opens
  rw [hmodule] at hunbuilt
  rw [hload] at hsame ⊢
  -- Whether it was served or failed, the call ends with the cache that it opened.
  have hlast : loader last = { loader started with cache := some cache } := by
    cases hcourse with
    | unopened e failed opening =>
      rw [hopen] at opening
      cases opening
    | served cache' opened' code asked opening hit =>
      rw [loader_of_asked opening hit]
      rw [hopen] at opening
      cases opening
      rfl
    | refused cache' opened' missed e after opening miss answer =>
      rw [loader_of_refused hforeign (by rw [hbusy]) opening miss answer]
      rw [hopen] at opening
      cases opening
      rfl
    | built cache' opened' missed module ready result stored after opening miss answer put =>
      cases hunbuilt
  have hafter : Same opened (run last (Loader.setBusy false)).2 :=
    ⟨hsame.disk.trans (hstarted.trans hopened).disk.symm,
      hsame.here.trans (hstarted.trans hopened).here.symm⟩
  refine ⟨by rw [loader_setBusy], hready.same hafter ?_⟩
  rw [loader_setBusy, hlast, hloader]

theorem Later.ready (hlater : Later caching version file before s after)
    (hready : Ready caching version file fingerprint text s) (hidle : (loader s).busy = false)
    (hdocumented : Recorded caching version file before →
      Documented caching version file fingerprint s) :
    Same s after ∧ (loader after).busy = false ∧
      Ready caching version file fingerprint text after := by
  induction hlater with
  | start => exact ⟨.refl s, hidle, hready⟩
  | told _ after same kept ih =>
    obtain ⟨hsame, hidle, hready⟩ := ih
    exact ⟨hsame.trans same, kept ▸ hidle, hready.same same (by rw [kept])⟩
  | again _ l serving source ih =>
    obtain ⟨hsame, hidle, hready⟩ := ih
    obtain ⟨after, hafter, hidle', hready', hload⟩ := hready.load hidle
    rw [hload l source serving]
    exact ⟨hsame.trans hafter, hidle', hready'⟩
  | other _ l serving foreign source other unbuilt same ih =>
    obtain ⟨hsame, hidle, hready⟩ := ih
    exact ⟨hsame.trans same, hready.load_other hidle serving foreign unbuilt same⟩
  | renewed _ after recorded same fresh ih =>
    obtain ⟨hsame, hidle, hready⟩ := ih
    refine ⟨hsame.trans same, by rw [fresh], hready.renew same (by rw [fresh]) ?_⟩
    exact (hdocumented recorded).same hsame

/-- Caching is idempotent: once a call of a loader has given back a text for a component, whatever
the loader and the files went through before, every later call for it gives back the same text as
long as no file changes and no other component is stored. What it does depends neither on the text
of the component nor on any collaborator, and it changes no file. -/
theorem load_of_loaded (hroot : caching.root.isAbsolute)
    (hnames : ModuleStore.names (caching.root.stored file) ≠ CacheIndex.names)
    (hhooked : Hooked caching version before) (hserving : Serving caching version l)
    (h : (run before (l.load source file)).1 = .ok text)
    (hsteady : ∀ built ∈ builtBy before l source file,
      Steady (run before (l.load source file)).2 caching.root caching.directory
        built.dependencies)
    (hlater : Later caching version file before (run before (l.load source file)).2 s) :
    ∃ after, Same s after ∧ Same (run before (l.load source file)).2 after ∧
      ∀ (l' : Loader (StateM σ)) (source' : String), Serving caching version l' →
        run s (l'.load source' file) = (.ok text, after) := by
  obtain ⟨fingerprint, hready, hopen⟩ := ready_of_load hroot hnames hhooked.sane hserving h hsteady
  have hidle : (loader (run before (l.load source file)).2).busy = false := by
    rw [run_load_of_idle hhooked.sane.idle, loader_setBusy]
  have hdocumented : Recorded caching version file before →
      Documented caching version file fingerprint (run before (l.load source file)).2 := by
    intro hrecorded
    obtain ⟨cache, hcache⟩ := Option.isSome_iff_exists.mp hopen
    exact hrecorded.load hhooked.sane hserving h cache hcache fingerprint
      (hready.cache cache hcache).2
  obtain ⟨hsame, hidle', hready'⟩ := hlater.ready hready hidle hdocumented
  obtain ⟨after, hafter, -, -, hload⟩ := hready'.load hidle'
  exact ⟨after, hafter, hsame.trans hafter, hload⟩

end Afterwards

namespace Templated

/-- A loader starts anew. -/
def renewed (s : World) : World := { s with loader := {} }

theorem same_renewed (s : World) : Same s (renewed s) := ⟨rfl, rfl⟩

/-- Nothing was loaded yet. -/
def unloaded : World := renewed start

/-- The component was loaded. -/
def loaded : World := (run unloaded (loader.load "x" setting.file)).2

/-- The component is loaded with the template in its file. -/
theorem loads_template :
    (run unloaded (loader.load "x" setting.file)).1 = .ok "x\na()\n" ∧
      (builtBy unloaded loader "x" setting.file).map BuiltModule.dependencies =
        some ⟨setting.file, none, some ⟨"/p/a.html"⟩⟩ := by
  decide +kernel

theorem steady_loaded :
    Steady loaded ⟨"/p"⟩ ⟨"/c"⟩ ⟨setting.file, none, some ⟨"/p/a.html"⟩⟩ where
  component := ⟨by decide +kernel, by decide +kernel⟩
  external path hpath := by
    obtain rfl := List.mem_singleton.mp hpath
    exact ⟨by decide +kernel, by decide +kernel⟩
  other path hpath := by
    obtain rfl := List.mem_singleton.mp hpath
    decide

end Templated

open Templated in
/-- A component with a template in a file is loaded. A loader that starts anew then serves its
module, whatever text it is given and whoever would build the module. -/
theorem load_of_loaded_of_template :
    (run unloaded (loader.load "x" setting.file)).1 = .ok "x\na()\n" ∧
      ∃ after, Same (renewed loaded) after ∧ Same loaded after ∧
        ∀ (l' : Loader (StateM World)) (source' : String),
          Serving ⟨⟨"/p"⟩, ⟨"/c"⟩⟩ "2.7.0" l' →
            run (renewed loaded) (l'.load source' setting.file) = (.ok "x\na()\n", after) := by
  obtain ⟨hload, hbuilt⟩ := loads_template
  have hhooked : Hooked ⟨⟨"/p"⟩, ⟨"/c"⟩⟩ "2.7.0" unloaded := .new unloaded rfl
  have hlater : Later ⟨⟨"/p"⟩, ⟨"/c"⟩⟩ "2.7.0" setting.file unloaded loaded (renewed loaded) :=
    .renewed .start (renewed loaded) nofun (same_renewed loaded) rfl
  refine ⟨hload, load_of_loaded (by decide) (by decide) hhooked ⟨rfl, rfl⟩ hload ?_ hlater⟩
  intro built hmem
  rw [Option.mem_def.mp hmem] at hbuilt
  rw [Option.some.inj hbuilt]
  exact steady_loaded

namespace Templated

/-- What a file is loaded as, and after that from another text. -/
def twice (s : World) (l : Loader (StateM World)) (source : String) (file : Path) :
    Except BuildError String × Except BuildError String :=
  let first := run s (l.load source file)
  (first.1, (run first.2 (l.load "other" file)).1)

/-- A loader for a root whose components all have their template in a file, whatever that holds. -/
def templated (root src : String) : Loader (StateM World) where
  builder := { builder with compiler := { builder.compiler with
    parse := fun source _ => return .ok { descriptor := {
      script := some { kind := .script, content := source }
      template := some { kind := .template, src := some src } } }
    compileTemplate := fun _ => return .ok { code := "t()" } } }
  caching := some ⟨⟨root⟩, ⟨"/c"⟩⟩

/-- A loader whose compiler itself loads the component, and takes what it gets for a script. -/
def asking : Loader (StateM World) := { loader with
  builder := { builder with compiler := { builder.compiler with
    parse := fun source _ => do
      let text ← loader.load source setting.file
      return .ok { descriptor := {
        script := some { kind := .script, content := text.toOption.getD "" } } } } } }

/-- The index is lost, and the component is loaded again. -/
def forgotten : Except BuildError String × World :=
  let disk := loaded.machine.disk.drop ["c", "revue.json"] ⟨30, 0⟩
  run { loaded with machine.disk := disk } (loader.load "x" setting.file)

end Templated

open Templated in
/-- What was loaded is not what another call gives while a component is being built, nor if a file
that it was made from belongs to the cache or is the root, nor if the index was lost before and a
loader starts anew. -/
theorem load_ne_loaded :
    (run loaded (asking.load "other" ⟨"/p/B.vue"⟩)).1 = .ok "other\n" ∧
      twice unloaded loader "y" ⟨"/c/revue.json"⟩ = (.ok "y\n", .ok "other\n") ∧
      twice unloaded loader "y" ⟨"/c"⟩ = (.ok "y\n", .ok "other\n") ∧
      twice unloaded (templated "/p/a.html" "a.html") "x" setting.file =
        (.ok "x\nt()\n", .ok "other\nt()\n") ∧
      twice loaded (templated "/p" "revue.json") "x" ⟨"/c/App.vue"⟩ =
        (.ok "x\nt()\n", .ok "other\nt()\n") ∧
      forgotten.1 = .ok "x\na()\n" ∧
      (run (renewed forgotten.2) (loader.load "other" setting.file)).1 = .ok "other\n" := by
  refine ⟨?_, ?_, ?_, ?_, ?_, ?_, ?_⟩ <;> decide +kernel

end Host
end ComponentCompiler
