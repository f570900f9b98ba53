import ComponentCompiler.Config.Environment
import ComponentCompiler.Proofs.Config.Rereading
import ComponentCompiler.Proofs.Results

/-!
# Configurations that are printed and loaded again

Each part of a configuration is read back from the value that it is written as: a switch or the
settings of a transpiler, a command in either of its two forms, and messages of both kinds. So a
configuration that was accepted, under any environment, is loaded again from its own document
(`Config.parse_document`), as long as the document says what was written into it.
-/

namespace ComponentCompiler

open Toml

section Parts

theorem LogLevel.ofName?_name (level : LogLevel) : ofName? level.name = some level := by
  cases level <;> rfl

theorem ModuleForm.ofName?_name (form : ModuleForm) : ofName? form.name = some form := by
  cases form <;> rfl

theorem ExcludedMessage.restores (message : ExcludedMessage) :
    Restores ofToml? message.toToml message := by
  intro read hread
  cases message with
  | exact s =>
    rw [hread.eq_of_isSimple rfl]
    rfl
  | pattern s =>
    obtain ⟨fields, hfields, hget⟩ := hread.fields false (by simp) (List.Sublist.refl ["regex"])
    obtain ⟨entries, -, rfl, -⟩ := hread.table
    obtain ⟨value, hvalue, hstands⟩ := exists_of_some (hget "regex")
    rw [ofToml?, if_pos (show (table entries).atMost 1 = true from rfl), hfields,
      Option.bind_eq_bind, Option.bind_some, hvalue, Option.bind_eq_bind, Option.bind_some,
      restores_text s value hstands]
    · rfl
    · exact nofun

/-- A table with one key, which may have been left out. -/
theorem restores_single {decode : Decoder α} {written : Toml} {a : α}
    (h : Restores decode written a) (key : String) (default : α) :
    Restores (fun v => (v.asFields? [key] true).bind fun fields => field? fields key default decode)
      (.table [(key, written)]) a := by
  intro read hread
  obtain ⟨fields, hfields, hget⟩ := hread.fields true (by simp) (List.Sublist.refl [key])
  have hkey := hget key
  rw [Keyed.get?_cons, if_pos rfl] at hkey
  simp only [hfields, Option.bind_some]
  exact field?_of_some hkey h default

namespace Config

theorem restores_patterns (patterns : List ExcludedMessage) :
    Restores patternsOfToml? (patternsToToml patterns) patterns := by
  refine restores_single (fun read hread => ?_) "exclude" []
  obtain ⟨items, rfl, hitems⟩ := hread.items ExcludedMessage.restores
  exact hitems

theorem restores_compilerCommand (command : List String) :
    Restores commandOfToml? (.table [("command", .array (command.map .text))]) command :=
  restores_single (restores_command command) "command" _

theorem restores_parserMessages (patterns : List ExcludedMessage) :
    Restores parserOfToml? (.table [("errors", patternsToToml patterns)]) patterns :=
  restores_single (restores_patterns patterns) "errors" []

theorem restores_templateMessages (errors tips : List ExcludedMessage) :
    Restores templateOfToml?
      (.table [("errors", patternsToToml errors), ("tips", patternsToToml tips)])
      (errors, tips) := by
  intro read hread
  obtain ⟨fields, hfields, hget⟩ :=
    hread.fields true (by simp) (List.Sublist.refl ["errors", "tips"])
  have herrors := field?_of_some (hget "errors") (restores_patterns errors) []
  have htips := field?_of_some (hget "tips") (restores_patterns tips) []
  rw [templateOfToml?, hfields, Option.bind_eq_bind, Option.bind_some, herrors,
    Option.bind_eq_bind, Option.bind_some, htips]
  rfl

end Config

end Parts

section Transpilers

variable {options : TranspilerOptions} {v : Toml}

/-- The options of a transpiler are in canonical form. -/
def Transpilation.Settled : Transpilation → Prop
  | .enabled _ => True
  | .configured settings =>
    ∀ options, settings.options = some options → (table options).canonical = table options

theorem canonical_of_asEntries? (h : v.asEntries? = some options) :
    (table options).canonical = table options := by
  unfold asEntries? at h
  split at h
  · obtain ⟨more, -, h⟩ := Option.bind_eq_some_iff.mp h
    cases h
    exact canonical_canonical (table more)
  · cases h
    rfl
  · cases h

/-- Options are read back from their entries in the order in which they are written. -/
theorem restores_options (h : (table options).canonical = table options) :
    Restores asEntries? (.table (groupedEntries options)) options := by
  intro read hread
  obtain ⟨entries, more, rfl, hmore, hsame⟩ := hread.table
  have hdistinct : (table options).Distinct := h ▸ distinct_canonical (table options)
  have hgrouped : canonicalEntries (groupedEntries options) = canonicalEntries options :=
    canonicalEntries_groupedEntries fun entry hentry =>
      canonical_grouped (hdistinct.of_entry entry hentry)
  rw [asEntries?, hmore, Option.bind_eq_bind, Option.bind_some, hsame, hgrouped]
  exact congrArg some (Toml.table.inj h)

namespace Transpilation

theorem settled_of_ofToml? {t : Transpilation} (h : ofToml? v = some t) : t.Settled := by
  unfold ofToml? at h
  split at h
  · cases h
    exact trivial
  · split at h
    · obtain ⟨fields, -, h⟩ := Option.bind_eq_some_iff.mp h
      obtain ⟨command, -, h⟩ := Option.bind_eq_some_iff.mp h
      obtain ⟨found, hfound, h⟩ := Option.bind_eq_some_iff.mp h
      cases h
      rintro options rfl
      rw [field?] at hfound
      split at hfound
      · cases hfound
      · obtain ⟨options, hoptions, hfound⟩ := Option.map_eq_some_iff.mp hfound
        cases hfound
        exact canonical_of_asEntries? hoptions
    · cases h

theorem restores {t : Transpilation} (h : t.Settled) : Restores ofToml? t.toToml t := by
  intro read hread
  cases t with
  | enabled b =>
    rw [hread.eq_of_isSimple rfl]
    rfl
  | configured settings =>
    obtain ⟨command, options⟩ := settings
    have hkeys : (((command.map fun c => ("command", Toml.array (c.map .text))).toList ++
        (options.map fun o => ("options", Toml.table (groupedEntries o))).toList).map
          (·.1)).Sublist ["command", "options"] := by
      cases command <;> cases options <;> simp
    obtain ⟨fields, hfields, hget⟩ := hread.fields true (by simp) hkeys
    obtain ⟨entries, -, rfl, -⟩ := hread.table
    have hcommand := field?_of_map
      (by simpa [Keyed.get?_append, Keyed.get?_toList] using hget "command")
      fun c _ => (restores_command c).map some
    have hoptions := field?_of_map
      (by simpa [Keyed.get?_append, Keyed.get?_toList] using hget "options")
      fun o ho => (restores_options (h o ho)).map some
    unfold ofToml?
    dsimp only
    rw [if_pos (show (table entries).atMost 2 = true from rfl), hfields, Option.bind_eq_bind,
      Option.bind_some, hcommand, Option.bind_eq_bind, Option.bind_some, hoptions]
    rfl

end Transpilation

end Transpilers

namespace Config

variable {config config' : Config} {document : String} {environment : Environment}

theorem nodup_keys : keys.Nodup := by decide

/-- Only the path of the cache may be left out. -/
theorem keys_toToml (config : Config) : (config.toToml.map (·.1)).Sublist keys := by
  rw [toToml]
  cases config.cachePath with
  | none => exact List.eraseIdx_sublist keys (keys.idxOf "cache_dir")
  | some path => exact List.Sublist.refl keys

/-- A configuration is read back from its entries. -/
theorem restores (h : config.transpile.Settled) :
    Restores ofToml? (.table config.toToml) config := by
  intro read hread
  obtain ⟨fields, hfields, hget⟩ := hread.fields true nodup_keys config.keys_toToml
  have hat : ∀ key {written}, (key, written) ∈ config.toToml →
      Option.Rel Stands (fields key) (some written) := by
    intro key written hmem
    have hread := hget key
    rwa [(Keyed.get?_eq_some_iff_mem (nodup_keys.sublist config.keys_toToml)).mpr hmem] at hread
  have hlevel := field?_of_some (hat "log_level" (by simp [toToml]))
    (restores_name config.logLevel.ofName?_name) .warn
  have hform := field?_of_some (hat "module_format" (by simp [toToml]))
    (restores_name config.moduleForm.ofName?_name) .dynamic
  have hpermanent := field?_of_some (hat "permanent_cache" (by simp [toToml]))
    (restores_boolean config.permanentCache) false
  have hpath := field?_of_map
    (by
      simpa [toToml, Keyed.get?_append, Keyed.get?_toList, Keyed.get?_cons] using
        hget "cache_dir")
    fun (path : Path) _ => (restores_text path.text).map fun s => some (Path.mk s)
  have hparserErrors := field?_of_some (hat "no_log_parser_errors" (by simp [toToml]))
    (restores_boolean config.silenceParserErrors) false
  have htemplateErrors := field?_of_some (hat "no_log_template_compiler_errors" (by simp [toToml]))
    (restores_boolean config.silenceTemplateErrors) false
  have htemplateTips := field?_of_some (hat "no_log_template_compiler_tips" (by simp [toToml]))
    (restores_boolean config.silenceTemplateTips) false
  have htranspile := field?_of_some (hat "transpile" (by simp [toToml]))
    (Transpilation.restores h) (.enabled false)
  have hcompiler := field?_of_some (hat "compiler" (by simp [toToml]))
    (restores_compilerCommand config.compilerCommand) ({} : Config).compilerCommand
  have hparser := field?_of_some (hat "parser" (by simp [toToml]))
    (restores_parserMessages config.parserErrors) []
  have htemplate := field?_of_some (hat "template_compiler" (by simp [toToml]))
    (restores_templateMessages config.templateErrors config.templateTips) ([], [])
  simp only [ofToml?, hfields, hlevel, hform, hpermanent, hpath, hparserErrors, htemplateErrors,
    htemplateTips, htranspile, hcompiler, hparser, htemplate, Option.bind_eq_bind, Option.bind_some]
  rfl

theorem parse_eq_ok_iff : parse document = .ok config ↔
    (∃ entries, Toml.parse? document = some entries ∧ ofToml? (.table entries) = some config) ∧
      config.validate = .ok () := by
  rw [parse, ← Option.bind_eq_some_iff]
  cases (Toml.parse? document).bind fun entries => ofToml? (.table entries) with
  | none => exact ⟨fun h => (nomatch h), fun h => (nomatch h.1)⟩
  | some found =>
    dsimp only
    cases hvalid : found.validate with
    | error e =>
      refine ⟨fun h => (nomatch h), fun ⟨hfound, h⟩ => ?_⟩
      rw [← Option.some.inj hfound, hvalid] at h
      cases h
    | ok =>
      refine ⟨fun h => ?_, fun ⟨hfound, _⟩ => ?_⟩
      · cases h
        exact ⟨rfl, hvalid⟩
      · exact congrArg Except.ok (Option.some.inj hfound)

theorem settled_of_ofToml? {v : Toml} (h : ofToml? v = some config) : config.transpile.Settled := by
  obtain ⟨fields, -, h⟩ := Option.bind_eq_some_iff.mp h
  obtain ⟨templates, -, h⟩ := Option.bind_eq_some_iff.mp h
  obtain ⟨level, -, h⟩ := Option.bind_eq_some_iff.mp h
  obtain ⟨form, -, h⟩ := Option.bind_eq_some_iff.mp h
  obtain ⟨permanent, -, h⟩ := Option.bind_eq_some_iff.mp h
  obtain ⟨path, -, h⟩ := Option.bind_eq_some_iff.mp h
  obtain ⟨parserErrors, -, h⟩ := Option.bind_eq_some_iff.mp h
  obtain ⟨templateErrors, -, h⟩ := Option.bind_eq_some_iff.mp h
  obtain ⟨templateTips, -, h⟩ := Option.bind_eq_some_iff.mp h
  obtain ⟨transpile, htranspile, h⟩ := Option.bind_eq_some_iff.mp h
  obtain ⟨compiler, -, h⟩ := Option.bind_eq_some_iff.mp h
  obtain ⟨parser, -, h⟩ := Option.bind_eq_some_iff.mp h
  cases h
  rw [field?] at htranspile
  split at htranspile
  · cases htranspile
    exact trivial
  · exact Transpilation.settled_of_ofToml? htranspile

/-- The environment changes the log level and silences diagnostics. -/
theorem exists_of_under (h : config.under environment = .ok config') :
    ∃ level parserErrors templateErrors templateTips, config' = { config with
      logLevel := level
      silenceParserErrors := parserErrors
      silenceTemplateErrors := templateErrors
      silenceTemplateTips := templateTips } := by
  rw [under] at h
  cases hlevel : config.logLevelUnder environment with
  | error e =>
    rw [hlevel] at h
    cases h
  | ok level =>
    rw [hlevel] at h
    cases h
    exact ⟨_, _, _, _, rfl⟩

/-- Which diagnostics are silent is not checked. -/
theorem validate_of_under (h : config.under environment = .ok config') :
    config'.validate = config.validate := by
  obtain ⟨level, parserErrors, templateErrors, templateTips, rfl⟩ := exists_of_under h
  simp only [validate, policy, transpilerCommand, bind_assoc, pure_bind]

/-- A configuration that was accepted, under any environment, is loaded again from its own
document, if the document says what was written into it. -/
theorem parse_document (hparse : parse document = .ok config)
    (hunder : config.under environment = .ok config')
    (hprinted : Toml.read? config'.document = some (Toml.table config'.toToml).canonical) :
    parse config'.document = .ok config' := by
  obtain ⟨⟨entries, -, hentries⟩, hvalid⟩ := parse_eq_ok_iff.mp hparse
  have hsettled : config'.transpile.Settled := by
    obtain ⟨level, parserErrors, templateErrors, templateTips, rfl⟩ := exists_of_under hunder
    exact (settled_of_ofToml? hentries : config.transpile.Settled)
  obtain ⟨again, hagain, hstands⟩ := exists_stands_of_read? hprinted
  exact parse_eq_ok_iff.mpr ⟨⟨again, hagain, restores hsettled _ hstands⟩,
    (validate_of_under hunder).trans hvalid⟩

end Config

section Run

deriving instance DecidableEq for TranspilerSettings
deriving instance DecidableEq for Transpilation
deriving instance DecidableEq for Config

/-- A command as a text, messages of both kinds, and options with a table in them. -/
def givenText : String :=
  "compiler.command = \"b\"\nparser.errors.exclude = [\"a\", \x7bregex = \"c\"\x7d]\n" ++
    "transpile.options.env.n = 2\n"

def givenConfig : Config where
  compilerCommand := ["b"]
  parserErrors := [.exact "a", .pattern "c"]
  transpile := .configured ⟨none, some [("env", .table [("n", .integer 2)])]⟩

/-- An environment that sets the log level and silences tips. -/
def givenEnvironment : Environment := fun name =>
  if name = Config.logLevelVariable then some " Debug "
  else if name = Config.templateTipsVariable then some "1"
  else none

def effectiveConfig : Config := { givenConfig with logLevel := .debug, silenceTemplateTips := true }

theorem parse_document_effectiveConfig :
    Config.parse givenText = .ok givenConfig ∧
      givenConfig.under givenEnvironment = .ok effectiveConfig ∧
      Toml.read? effectiveConfig.document = some (Toml.table effectiveConfig.toToml).canonical ∧
      Config.parse effectiveConfig.document = .ok effectiveConfig := by
  have hparse : (Config.parse givenText).toOption = some givenConfig := by decide +kernel
  have hunder : (givenConfig.under givenEnvironment).toOption = some effectiveConfig := by
    decide +kernel
  have hprinted : Toml.read? effectiveConfig.document =
      some (Toml.table effectiveConfig.toToml).canonical := by
    rw [Config.document, Toml.document, Toml.read?, Toml.parse?, String.toList_ofList]
    decide +kernel
  exact ⟨ok_of_toOption hparse, ok_of_toOption hunder, hprinted,
    Config.parse_document (ok_of_toOption hparse) (ok_of_toOption hunder) hprinted⟩

/-- A table that has the key of dates and is not a date is not read back: once its entries are
sorted, it begins with that key. -/
example : Toml.read? (Toml.document [("d", .table [(Toml.dateKey, .text "1979-05-27"),
    ("n", .integer 1)])]) = none := by
  rw [Toml.document, Toml.read?, Toml.parse?, String.toList_ofList]
  decide +kernel

end Run

end ComponentCompiler
