import ComponentCompiler.Proofs.Build.Lines
import ComponentCompiler.Proofs.Build.Sources
import ComponentCompiler.Proofs.Path.Slashed
import ComponentCompiler.Proofs.SourceMap.Identity

/-!
# Scripts from a file of their own

A script that stands in a file of its own and is not transpiled gets the map of a text that is
taken as it stands, whatever map came with it (`takenAsIs_of_build`). Without a template this is
the map of the module, and each line of the file that is not blank traces to itself
(`traces_own_lines`). The source in this map is the slashed form of the path that was read, which
leads back to the file only if the path is relative (`names_slashed_path`).
-/

namespace ComponentCompiler

open Host Text

variable {σ : Type}

variable [Files (StateM σ)] [Journal (StateM σ)] {builder : Builder (StateM σ)}
  {source content : String} {file path : Path} {descriptor : Descriptor}
  {compiled : CompiledScript} {script : ScriptPart} {template : TemplatePart}
  {built : BuiltModule} {s : σ}

namespace Builder

/-- A build from a state finds a descriptor for its component. -/
def Parses (builder : Builder (StateM σ)) (s : σ) (source : String) (file : Path)
    (descriptor : Descriptor) : Prop :=
  (run (run s (Journal.info "start compiling" [fileField file])).2
    (builder.parse source file).run).1 = .ok descriptor

/-- A module was built from a script in a file of its own as it stands: the text of the file was
read, put into the module format and mapped to itself, and a template has a map only if there is
one to be compiled. -/
structure TakenAsIs [Host σ] (builder : Builder (StateM σ)) (s : σ) (source : String)
    (file path : Path) (descriptor : Descriptor) (compiled : CompiledScript) (content : String)
    (script : ScriptPart) (template : TemplatePart) (built : BuiltModule) : Prop where
  parsed : builder.Parses s source file descriptor
  named : ∃ src, compiled.src = some src ∧ path = BlockText.externalPath file src
  /-- In the state in which it is read the files are those from before the build, if the
  collaborators leave these alone. -/
  read : ∃ t, (builder.LeavesFiles → Same s t) ∧ (run t (Files.readText path)).1 = .ok content
  code : script.code = Module.inFormat (ScriptPart.untranspiled descriptor compiled content
    builder.options.format) builder.options.format
  map : script.map = some (SourceMap.identity path.slashed content)
  unmapped : descriptor.template = none ∨ Module.rendersItself content → template.map = none
  assembled : built.code = BuiltModule.assemble script template

/-- Without a block to compile, or beside a script that renders by itself, a template has no
map. -/
theorem map_of_templatePart_eq_none {bindings : Option Json} {sources : SourceSet}
    (h : Yields (builder.templatePart file descriptor bindings script sources) template)
    (hnone : descriptor.template = none ∨ script.hasRender) : template.map = none := by
  obtain ⟨_, -, h⟩ := yields_bind h
  split at h
  · obtain rfl := yields_pure h
    rfl
  · rename_i hrender
    rw [hnone.resolve_right hrender] at h
    obtain rfl := yields_pure h
    rfl

section Script

variable {text : BlockText} {componentMap : Option SourceMap}

omit [Files (StateM σ)] in
theorem finishScript_of_none {code : String} {result : String × Option SourceMap}
    (hnone : builder.transpiler = none)
    (h : Yields (builder.finishScript file text code componentMap) result) :
    result = (code, ScriptPart.mapAsRead text componentMap) := by
  unfold finishScript at h
  rw [hnone] at h
  obtain ⟨_, -, h⟩ := yields_bind h
  exact (yields_pure h).symm

variable [Host σ]

/-- A script whose text is in a file of its own is the text of this file, mapped to itself. -/
theorem scriptPart_of_external (hnone : builder.transpiler = none)
    (h : (run s (builder.scriptPart file descriptor (some compiled)).run).1 = .ok script)
    (hpath : script.external = some path) :
    ∃ content, (∃ src, compiled.src = some src ∧ path = BlockText.externalPath file src) ∧
      (run s (Files.readText path)).1 = .ok content ∧
      script.code = Module.inFormat (ScriptPart.untranspiled descriptor compiled content
        builder.options.format) builder.options.format ∧
      script.map = some (SourceMap.identity path.slashed content) ∧
      script.hasRender = Module.rendersItself content := by
  obtain ⟨text, htext, h⟩ := ok_of_bind h
  obtain ⟨componentMap, -, h⟩ := ok_of_bind h
  obtain ⟨result, hresult, h⟩ := ok_of_bind h
  obtain ⟨-, -, h⟩ := ok_of_bind h
  obtain rfl := yields_pure (yields_of_run h)
  obtain rfl := finishScript_of_none hnone (yields_of_run hresult)
  change (run s (BlockText.resolve .script compiled.content compiled.src file)).1 = .ok text
    at htext
  cases hsrc : compiled.src with
  | none =>
      rw [hsrc] at htext
      cases htext
      cases hpath
  | some src =>
      rw [hsrc, BlockText.run_resolve_some] at htext
      split at htext
      · cases htext
      · rename_i content hread
        cases htext
        obtain rfl := Option.some.inj hpath
        exact ⟨content, ⟨src, rfl, rfl⟩, hread, rfl, rfl, rfl⟩

end Script

variable [Host σ]

/-- A build with a script in a file of its own, and without a transpiler, takes the script as it
stands. -/
theorem takenAsIs_of_build (hnone : builder.transpiler = none)
    (hbuilt : (run s (builder.build source file).run).1 = .ok built)
    (hpath : built.dependencies.externalScript = some path) :
    ∃ descriptor compiled content script template,
      builder.TakenAsIs s source file path descriptor compiled content script template built := by
  obtain ⟨-, -, h⟩ := ok_of_bind hbuilt
  obtain ⟨descriptor, hparsed, h⟩ := ok_of_bind h
  obtain ⟨-, -, h⟩ := ok_of_bind h
  obtain ⟨compiled, -, h⟩ := ok_of_bind h
  obtain ⟨script, hscript, h⟩ := ok_of_bind h
  obtain ⟨-, -, h⟩ := ok_of_bind h
  obtain ⟨template, htemplate, h⟩ := ok_of_bind h
  obtain ⟨-, -, h⟩ := ok_of_bind h
  obtain ⟨-, -, h⟩ := ok_of_bind h
  obtain rfl := yields_pure (yields_of_run h)
  cases compiled with
  | none =>
      obtain rfl := yields_pure (yields_of_run hscript)
      cases hpath
  | some compiled =>
      obtain ⟨content, hnamed, hread, hcode, hmap, hrender⟩ :=
        scriptPart_of_external hnone hscript hpath
      refine ⟨descriptor, compiled, content, script, template, {
        parsed := hparsed
        named := hnamed
        read := ⟨_, fun hleaves => ?_, hread⟩
        code := hcode
        map := hmap
        unmapped := fun h => ?_
        assembled := rfl }⟩
      · exact ((reads_record _ s).trans (hleaves.reads_parse source file _)).trans
          (hleaves.reads_compileScript file descriptor _)
      · refine map_of_templatePart_eq_none (yields_of_run htemplate) (h.imp_right fun h => ?_)
        rw [hrender]
        exact h

end Builder

/-! ### Lines -/

/-- What putting code into a module format rewrites. -/
def Module.formatPatterns : ModuleForm → List Scanner
  | .static => staticPatterns
  | .dynamic => dynamicPatterns

theorem Module.keepsLines_inFormat (code : String) (format : ModuleForm) :
    KeepsLines (formatPatterns format) code.toList (inFormat code format).toList := by
  cases format with
  | static => simpa [inFormat, formatPatterns] using keepsLines_asStatic code.toList
  | dynamic => simpa [inFormat, formatPatterns] using keepsLines_asDynamic code.toList

/-- What becomes of a line before it is put into a module format: nothing, unless there is setup
code, and then nothing if no pattern matches it and it is not the last one. -/
theorem ScriptPart.lines_untranspiled (descriptor : Descriptor) (compiled : CompiledScript)
    (content : String) (format : ModuleForm) :
    newlines (untranspiled descriptor compiled content format).toList =
        newlines content.toList ∧
      ∀ (k : Nat) (line : List Char), (pieces '\n' content.toList)[k]? = some line →
        (∀ scan ∈ Module.setupPatterns, found scan none line = false) →
        k < newlines content.toList ∨ (compiled.setup || descriptor.scriptSetup.isSome) = false →
        (pieces '\n' (untranspiled descriptor compiled content format).toList)[k]? = some line := by
  unfold untranspiled
  split
  · rename_i hsetup
    obtain ⟨hnumber, hlines⟩ :=
      Module.lines_withSetup content ((descriptor.script.map Block.content).getD "") format
    refine ⟨hnumber, fun k line hk hline hplace => ?_⟩
    rw [hsetup] at hplace
    have hinner : k ≠ newlines content.toList :=
      Nat.ne_of_lt (hplace.resolve_right nofun)
    rw [hlines k line hk hline, if_neg hinner]
  · exact ⟨rfl, fun _ _ hk _ _ => hk⟩

namespace Builder

variable [Host σ]

/-- Collaborators that leave the files alone do not change the file before it is read. -/
theorem TakenAsIs.read_before (h : builder.TakenAsIs s source file path descriptor compiled content
    script template built) (hleaves : builder.LeavesFiles) :
    (run s (Files.readText path)).1 = .ok content := by
  obtain ⟨t, hsame, hread⟩ := h.read
  rw [run_readText] at hread ⊢
  rwa [(hsame hleaves).disk, (hsame hleaves).here] at hread

theorem TakenAsIs.number (h : builder.TakenAsIs s source file path descriptor compiled content
    script template built) : newlines script.code.toList = newlines content.toList := by
  rw [h.code, (Module.keepsLines_inFormat _ _).number, (ScriptPart.lines_untranspiled _ _ _ _).1]

/-- A line of the file that no pattern matches is the same line of the module. -/
theorem TakenAsIs.unmatched (h : builder.TakenAsIs s source file path descriptor compiled content
    script template built) (hcode : script.code ≠ "") {k : Nat} {line : List Char}
    (hk : (pieces '\n' content.toList)[k]? = some line)
    (hline : ∀ scan ∈ Module.setupPatterns ++ Module.formatPatterns builder.options.format,
      found scan none line = false)
    (hplace : k < newlines content.toList ∨
      (compiled.setup || descriptor.scriptSetup.isSome) = false) :
    (pieces '\n' built.code.toList)[k]? = some line := by
  have huntranspiled := (ScriptPart.lines_untranspiled descriptor compiled content
    builder.options.format).2 k line hk
      (fun scan hscan => hline scan (List.mem_append_left _ hscan)) hplace
  have hscript : (pieces '\n' script.code.toList)[k]? = some line := by
    rw [h.code]
    exact (Module.keepsLines_inFormat _ _).unmatched k line huntranspiled fun scan hscan =>
      hline scan (List.mem_append_right _ hscan)
  rw [h.assembled]
  exact getElem?_pieces_of_starts (BuiltModule.starts_assemble hcode template) hscript

/-- Without a template to compile, the module ends with the map of its script, which traces the
lines of the file to themselves. -/
theorem TakenAsIs.exists_read (h : builder.TakenAsIs s source file path descriptor compiled content
    script template built) (hnone : descriptor.template = none ∨ Module.rendersItself content)
    (few : newlines content.toList < 2 ^ 32) :
    ∃ map : SourceMap, SourceMap.extract built.code = .ok (some map) ∧
      ∀ line column, map.trace line column =
        (SourceMap.identity path.slashed content).trace line column := by
  obtain ⟨map, hextract, htrace⟩ := SourceMap.exists_read_identity path.slashed few
  refine ⟨map, ?_, htrace⟩
  rw [h.assembled, BuiltModule.assemble, h.map, h.unmapped hnone]
  exact hextract _

/-- The map of a text that is taken as it stands traces a position to the start of its own line if
there is more than blanks on it, and to nothing otherwise, whatever the text is. Numbers of lines
are those that maps can count to; up to there they are the places of the lines. A script in a file
of its own that is not transpiled is mapped like that: its lines keep their places in the module,
and without a template to compile, the map that is read from the module traces each of them to
itself. -/
theorem traces_own_lines :
    (∀ (file content : String) (line column : UInt32),
      (∀ location, (SourceMap.identity file content).trace line column = some (some location) ↔
        SourceMap.HasLine content line ∧ location = ⟨file, line, 0, none⟩) ∧
      ((SourceMap.identity file content).trace line column = some none ↔
        ¬SourceMap.HasLine content line)) ∧
    (∀ (content : String) (line : UInt32), newlines content.toList < 2 ^ 32 →
      (SourceMap.HasLine content line ↔ line ≠ 0 ∧ ∃ text,
        (pieces '\n' content.toList)[line.toNat - 1]? = some text ∧ isBlankText text = false)) ∧
    ∀ (builder : Builder (StateM σ)) (s : σ) (source : String) (file path : Path)
      (built : BuiltModule), builder.transpiler = none →
      (run s (builder.build source file).run).1 = .ok built →
      built.dependencies.externalScript = some path →
      ∃ descriptor compiled content script template,
        builder.TakenAsIs s source file path descriptor compiled content script template built ∧
        newlines script.code.toList = newlines content.toList ∧
        (script.code ≠ "" → ∀ (k : Nat) (line : List Char),
          (pieces '\n' content.toList)[k]? = some line →
          (∀ scan ∈ Module.setupPatterns ++ Module.formatPatterns builder.options.format,
            found scan none line = false) →
          k < newlines content.toList ∨
            (compiled.setup || descriptor.scriptSetup.isSome) = false →
          (pieces '\n' built.code.toList)[k]? = some line) ∧
        (descriptor.template = none ∨ Module.rendersItself content →
          newlines content.toList < 2 ^ 32 →
          ∃ map : SourceMap, SourceMap.extract built.code = .ok (some map) ∧
            ∀ line column,
              (∀ location, map.trace line column = some (some location) ↔
                SourceMap.HasLine content line ∧ location = ⟨path.slashed, line, 0, none⟩) ∧
              (map.trace line column = some none ↔ ¬SourceMap.HasLine content line)) := by
  have htraces : ∀ (file content : String) (line column : UInt32),
      (∀ location, (SourceMap.identity file content).trace line column = some (some location) ↔
        SourceMap.HasLine content line ∧ location = ⟨file, line, 0, none⟩) ∧
      ((SourceMap.identity file content).trace line column = some none ↔
        ¬SourceMap.HasLine content line) := fun _ _ _ _ =>
    ⟨fun _ => SourceMap.trace_identity_eq_some_iff, SourceMap.trace_identity_eq_nothing_iff⟩
  refine ⟨htraces,
    fun _ _ few => SourceMap.hasLine_iff_of_few few, ?_⟩
  intro builder s source file path built hnone hbuilt hpath
  obtain ⟨descriptor, compiled, content, script, template, htaken⟩ :=
    takenAsIs_of_build hnone hbuilt hpath
  refine ⟨descriptor, compiled, content, script, template, htaken, htaken.number,
    fun hcode k line => htaken.unmatched hcode, fun htemplate few => ?_⟩
  obtain ⟨map, hextract, htrace⟩ := htaken.exists_read htemplate few
  refine ⟨map, hextract, fun line column => ?_⟩
  rw [htrace]
  exact htraces _ _ _ _

/-- A builder for a component that consists of a script in a file of its own. -/
def forScript (src : String) : Builder (StateM Machine) where
  compiler := {
    version := "2.7.0"
    parse _ _ := return .ok { descriptor := {
      script := some { kind := .script, src := some src } } }
    compileScript _ _ := return .ok (some { src := some src })
    compileTemplate _ := return .ok { code := "" } }
  version := ⟨"2.7.0", 2, 7, 0⟩
  variant := .legacy
  deliver := Record.announce

theorem leavesFiles_forScript (src : String) : (forScript src).LeavesFiles where
  parse _ _ := reads_pure _
  compileScript _ _ := reads_pure _
  compileTemplate _ := reads_pure _
  transpile := nofun
  deliver _ := reads_record _

theorem parses_forScript (src : String) (s : Machine) (source : String) (file : Path) :
    (forScript src).Parses s source file { script := some { kind := .script, src := some src } } :=
  rfl

/-- A file with a line that ends in a carriage return, a line of blanks and an empty line. -/
def fourLines : String := "let a = 1\r\n \u3000\n\nexport default \x7b a \x7d"

/-- A machine with this file. -/
def withFourLines : Machine := ({} : Machine).writeFile ⟨"/p/App.js"⟩ (.text fourLines)

theorem exists_built_of_four :
    ∃ built, (run withFourLines ((forScript "App.js").build "" ⟨"/p/App.vue"⟩).run).1 = .ok built ∧
      built.dependencies.externalScript = some ⟨"/p/App.js"⟩ :=
  exists_ok_of_toOption (by decide +kernel)

/-- Of a file with four lines, the last one traces to itself, and the second one, which is blank, to
nothing. -/
theorem traces_own_lines_of_four :
    (SourceMap.identity "App.js" fourLines).trace 4 7 = some (some ⟨"App.js", 4, 0, none⟩) ∧
      ∃ built map, (run withFourLines ((forScript "App.js").build "" ⟨"/p/App.vue"⟩).run).1 =
          .ok built ∧
        SourceMap.extract built.code = .ok (some map) ∧
        map.trace 4 7 = some (some ⟨"p/App.js", 4, 0, none⟩) ∧ map.trace 2 1 = some none := by
  obtain ⟨hidentity, hplaces, htraces⟩ := @traces_own_lines Machine _ _ _
  have few : newlines fourLines.toList < 2 ^ 32 := by decide
  have hfourth : SourceMap.HasLine fourLines 4 :=
    (hplaces _ _ few).mpr ⟨by decide, "export default \x7b a \x7d".toList, by decide, by decide⟩
  have hsecond : ¬SourceMap.HasLine fourLines 2 := by
    intro h
    obtain ⟨-, text, htext, hfilled⟩ := (hplaces _ _ few).mp h
    obtain rfl : " \u3000".toList = text := Option.some.inj htext
    revert hfilled
    decide
  obtain ⟨built, hbuilt, hpath⟩ := exists_built_of_four
  obtain ⟨descriptor, compiled, content, script, template, htaken, -, -, hread⟩ :=
    htraces _ _ _ _ _ _ rfl hbuilt hpath
  have hparses := parses_forScript "App.js" withFourLines "" ⟨"/p/App.vue"⟩
  obtain rfl := Except.ok.inj (hparses.symm.trans htaken.parsed)
  have hfile : (run withFourLines (Files.readText ⟨"/p/App.js"⟩)).1 = .ok fourLines := by
    decide +kernel
  obtain rfl := Except.ok.inj
    (hfile.symm.trans (htaken.read_before (leavesFiles_forScript "App.js")))
  obtain ⟨map, hextract, htrace⟩ := hread (.inl rfl) few
  refine ⟨((hidentity _ _ _ _).1 _).mpr ⟨hfourth, rfl⟩, built, map, hbuilt, hextract, ?_, ?_⟩
  · exact ((htrace _ _).1 _).mpr ⟨hfourth, by decide⟩
  · exact (htrace 2 1).2.mpr hsecond

/-! ### Names of sources -/

/-- The one source in the map of a script that is not transpiled is the slashed form of the path
that was read. It has those components of the path that have a text, so it names the file itself
exactly if the path starts neither with a slash nor with a dot. Of a component with an absolute
path it never does; from a relative path it leads to the same place. -/
theorem names_slashed_path (hnone : builder.transpiler = none)
    (hbuilt : (run s (builder.build source file).run).1 = .ok built)
    (hpath : built.dependencies.externalScript = some path) :
    (∃ descriptor compiled content script template,
      builder.TakenAsIs s source file path descriptor compiled content script template built) ∧
    (∀ descriptor compiled content script template,
      builder.TakenAsIs s source file path descriptor compiled content script template built →
      ∃ map, script.map = some map ∧ map.sources = [path.slashed]) ∧
    (Path.mk path.slashed).components = path.components.filter (·.chars?.isSome) ∧
    ((Path.mk path.slashed).components = path.components ↔
      path.isAbsolute = false ∧ Path.Component.here ∉ path.components) ∧
    (file.isAbsolute → file.parts ≠ [] →
      (Path.mk path.slashed).components ≠ path.components) ∧
    (path.isAbsolute = false → ∀ here, Disk.spot here ⟨path.slashed⟩ = Disk.spot here path) := by
  have htaken := takenAsIs_of_build hnone hbuilt hpath
  refine ⟨htaken, fun _ _ _ _ _ h => ⟨_, h.map, rfl⟩, Path.components_slashed path,
    Path.components_slashed_eq_iff path, fun hfile hparts hsame => ?_,
    fun hrelative => Path.spot_slashed hrelative⟩
  have habsolute : path.isAbsolute :=
    isAbsolute_of_build (yields_of_run hbuilt) hfile hparts path
      (List.mem_append_left _ (Option.mem_toList.mpr hpath))
  rw [((Path.components_slashed_eq_iff path).mp hsame).1] at habsolute
  cases habsolute

/-- The map of a script beside a component with a relative path names the file itself. -/
theorem names_slashed_path_of_relative :
    let machine := ({} : Machine).writeFile ⟨"p/App.js"⟩ (.text fourLines)
    ∃ built, (run machine ((forScript "App.js").build "" ⟨"p/App.vue"⟩).run).1 = .ok built ∧
      built.dependencies.externalScript = some ⟨"p/App.js"⟩ ∧
      (Path.mk (Path.mk "p/App.js").slashed).components = (Path.mk "p/App.js").components := by
  intro machine
  have hresult : (run machine ((forScript "App.js").build "" ⟨"p/App.vue"⟩).run).1.toOption.map
      (·.dependencies.externalScript) = some (some ⟨"p/App.js"⟩) := by
    decide +kernel
  obtain ⟨built, hbuilt, hpath⟩ := exists_ok_of_toOption hresult
  obtain ⟨-, -, -, hsame, -, -⟩ := names_slashed_path rfl hbuilt hpath
  exact ⟨built, hbuilt, hpath, hsame.mpr ⟨by decide, by decide⟩⟩

/-- The map of a script beside a component with an absolute path names another file: the slash at
the start of the path is lost. -/
theorem absolute_path_loses_root :
    ∃ built descriptor compiled content script template map,
      (run withFourLines ((forScript "App.js").build "" ⟨"/p/App.vue"⟩).run).1 = .ok built ∧
      built.dependencies.externalScript = some ⟨"/p/App.js"⟩ ∧
      (forScript "App.js").TakenAsIs withFourLines "" ⟨"/p/App.vue"⟩ ⟨"/p/App.js"⟩ descriptor
        compiled content script template built ∧
      script.map = some map ∧ map.sources = ["p/App.js"] ∧
      (Path.mk "p/App.js").components ≠ (Path.mk "/p/App.js").components := by
  obtain ⟨built, hbuilt, hpath⟩ := exists_built_of_four
  obtain ⟨descriptor, compiled, content, script, template, htaken⟩ :=
    takenAsIs_of_build rfl hbuilt hpath
  exact ⟨built, descriptor, compiled, content, script, template, _, hbuilt, hpath, htaken,
    htaken.map, congrArg ([·]) (by decide), by decide⟩

end Builder
end ComponentCompiler
