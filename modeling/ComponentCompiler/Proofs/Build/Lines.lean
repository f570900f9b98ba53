import ComponentCompiler.Machine.Basic
import ComponentCompiler.Proofs.Build.Stages
import ComponentCompiler.Proofs.Module.Format

/-!
# Where the lines of a module come from

Putting code into a module format keeps its lines, and putting the parts of a module together moves
them as a whole: the script stays where it is, and the code of the template starts right below it.
That is where the composed map expects it (`lines_of_module`).
-/

namespace ComponentCompiler

open Text

namespace TemplatePart

/-- The code of a template in a module format. -/
def formatted (code : String) : ModuleForm → String
  | .dynamic => Module.inFormat code .dynamic
  | .static => code

theorem formatted_ne_empty {code : String} (h : code ≠ "") (format : ModuleForm) :
    formatted code format ≠ "" := by
  cases format with
  | static => exact h
  | dynamic =>
      have hlist : code.toList ≠ [] := by simpa using h
      simpa [formatted, Module.inFormat] using Module.asDynamic_ne_nil hlist

/-- Two parts that are not empty stand on lines of their own. -/
theorem stacked_pair {part next : String} (hpart : part ≠ "") (hnext : next ≠ "") :
    (stacked [part, next]).toList = part.toList ++ '\n' :: next.toList := by
  simp [stacked, hpart, hnext]

/-- A part that is not empty stands on top, and what follows it starts on a line of its own. -/
theorem starts_stacked {part : String} (h : part ≠ "") (parts : List String) :
    part.toList ++ ['\n'] <+: (stacked (part :: parts)).toList ++ ['\n'] := by
  have hfilter : (part :: parts).filter (· != "") = part :: parts.filter (· != "") :=
    List.filter_cons_of_pos (by simpa using h)
  rw [stacked, hfilter]
  cases parts.filter (· != "") with
  | nil => simp
  | cons next rest => simp

theorem starts_connected {code : String} (h : code ≠ "") (format : ModuleForm)
    (functional : Bool) : (formatted code format).toList ++ ['\n'] <+:
      (connected code format functional).toList ++ ['\n'] :=
  starts_stacked (formatted_ne_empty h format) _

end TemplatePart

namespace BuiltModule

/-- The line that a template starts on below a script. -/
def templateStart (script : String) : Nat :=
  if script = "" then 0 else newlines script.toList + 1

theorem lineOffset_eq (script : String) :
    SourceMap.lineOffset script = UInt32.ofNat (templateStart script) := by
  by_cases h : script = ""
  · simp [SourceMap.lineOffset, templateStart, h]
  · have hlist : script.toList.isEmpty = false := by simpa using h
    rw [SourceMap.lineOffset, hlist, templateStart, if_neg h]
    simp

theorem toNat_lineOffset {script : String} (h : templateStart script < 2 ^ 32) :
    (SourceMap.lineOffset script).toNat = templateStart script := by
  rw [lineOffset_eq, UInt32.toNat_ofNat_of_lt' h]

/-- What follows the parts of a module starts on a line of its own. -/
theorem starts_withMap (body : String) (map : Option SourceMap) :
    body.toList ++ ['\n'] <+: (withMap body map).toList := by
  cases map with
  | none => simp [withMap]
  | some map => exact ⟨'\n' :: (map.comment ++ "\n").toList, by simp [withMap]⟩

/-- A script stands at the top of its module. -/
theorem starts_assemble {script : ScriptPart} (h : script.code ≠ "") (template : TemplatePart) :
    script.code.toList ++ ['\n'] <+: (assemble script template).toList :=
  (TemplatePart.starts_stacked h [template.code]).trans (starts_withMap _ _)

/-- Below a script, the lines of a module are those of a text that starts with the template. -/
theorem getElem?_pieces_assemble (script : ScriptPart) {template : TemplatePart}
    (h : template.code ≠ "") : ∃ below, template.code.toList ++ ['\n'] <+: below ∧ ∀ j : Nat,
      (pieces '\n' (assemble script template).toList)[templateStart script.code + j]? =
        (pieces '\n' below)[j]? := by
  obtain ⟨rest, hrest⟩ := starts_withMap (body script.code template.code)
    (SourceMap.compose script.map template.map script.code)
  change _ = (assemble script template).toList at hrest
  refine ⟨template.code.toList ++ ['\n'] ++ rest, List.prefix_append _ _, fun j => ?_⟩
  rw [← hrest, templateStart]
  split
  · rename_i hscript
    have hbody : body script.code template.code = template.code := by
      simp [body, TemplatePart.stacked, hscript, h]
    rw [hbody, Nat.zero_add]
  · rename_i hscript
    rw [body, TemplatePart.stacked_pair hscript h, List.append_assoc, List.append_assoc,
      List.cons_append, getElem?_pieces_append_right, List.append_assoc]

/-- The parts of a module are where its map expects them: the lines of the script are the first
ones, those of the code of the template follow from the line that the template is moved down to. -/
structure Aligned (format : ModuleForm) (script code module : String) : Prop where
  scriptLines : script ≠ "" → ∀ (k : Nat) (line : List Char),
    (pieces '\n' script.toList)[k]? = some line → (pieces '\n' module.toList)[k]? = some line
  templateLines : code ≠ "" → ∀ (j : Nat) (line : List Char),
    (pieces '\n' (TemplatePart.formatted code format).toList)[j]? = some line →
      (pieces '\n' module.toList)[templateStart script + j]? = some line
  offset : SourceMap.lineOffset script = UInt32.ofNat (templateStart script)
  /-- Lines are counted up to a limit in maps; below it the count is exact. -/
  start : templateStart script < 2 ^ 32 →
    (SourceMap.lineOffset script).toNat = templateStart script

/-- A script stands where it should, with or without a template below it. -/
theorem aligned_script (format : ModuleForm) (script : ScriptPart) (template : TemplatePart) :
    Aligned format script.code "" (assemble script template) where
  scriptLines h _ _ hk := getElem?_pieces_of_starts (starts_assemble h template) hk
  templateLines h := absurd rfl h
  offset := lineOffset_eq script.code
  start := toNat_lineOffset

theorem aligned_assemble (script : ScriptPart) {template : TemplatePart} {code : String}
    {format : ModuleForm} {functional : Bool}
    (h : template.code = TemplatePart.connected code format functional) :
    Aligned format script.code code (assemble script template) where
  scriptLines h _ _ hk := getElem?_pieces_of_starts (starts_assemble h template) hk
  templateLines hcode j line hj := by
    have hstarts := TemplatePart.starts_connected hcode format functional
    rw [← h] at hstarts
    have hne : template.code ≠ "" := by
      intro hempty
      have hformatted := TemplatePart.formatted_ne_empty hcode format
      rw [hempty] at hstarts
      have hlength := hstarts.length_le
      simp at hlength
      exact hformatted hlength
    obtain ⟨below, hbelow, hlines⟩ := getElem?_pieces_assemble script hne
    rw [hlines]
    exact getElem?_pieces_of_starts (hstarts.trans hbelow) hj
  offset := lineOffset_eq script.code
  start := toNat_lineOffset

end BuiltModule

variable {σ : Type} [Files (StateM σ)] [Journal (StateM σ)]

/-- The lines of a module are those of its parts: bringing setup code together with a plain script
and putting code into either format keeps the lines of any text, and every module that is built
has the lines of its script first and those of the code of its template from the line on that its
map counts from. -/
theorem lines_of_module :
    (∀ (content plain : String) (format : ModuleForm),
      newlines (Module.withSetup content plain format).toList = newlines content.toList ∧
      ∀ (k : Nat) (line : List Char), (pieces '\n' content.toList)[k]? = some line →
        (∀ scan ∈ Module.setupPatterns, found scan none line = false) →
        (pieces '\n' (Module.withSetup content plain format).toList)[k]? =
          some (if k = newlines content.toList then
            line ++ Module.closing content.toList plain format else line)) ∧
    (∀ code : String, KeepsLines Module.staticPatterns code.toList
      (Module.inFormat code .static).toList) ∧
    (∀ code : String, KeepsLines Module.dynamicPatterns code.toList
      (Module.inFormat code .dynamic).toList) ∧
    (∀ (script : ScriptPart) (template : TemplatePart) (code : String) (format : ModuleForm)
      (functional : Bool), template.code = TemplatePart.connected code format functional →
      BuiltModule.Aligned format script.code code (BuiltModule.assemble script template)) ∧
    ∀ (builder : Builder (StateM σ)) (source : String) (file : Path) (built : BuiltModule),
      Yields (builder.build source file) built →
      ∃ (descriptor : Descriptor) (compiled : Option CompiledScript) (script : ScriptPart)
        (template : TemplatePart) (code : String),
        let bindings := compiled.bind CompiledScript.bindings
        let functional := Builder.isFunctional descriptor script
        Yields (builder.parse source file) descriptor ∧
        Yields (builder.compileScript file descriptor) compiled ∧
        Yields (builder.scriptPart file descriptor compiled) script ∧
        Yields (builder.templatePart file descriptor bindings script ⟨[⟨file, source⟩]⟩)
          template ∧
        built.code = BuiltModule.assemble script template ∧
        ((compiled = none ∧ script.code = "") ∨
          ∃ given text, compiled = some given ∧ builder.HandsOver file descriptor given text ∧
            script.code = Module.inFormat text builder.options.format) ∧
        ((code = "" ∧ ((script.hasRender ∧
              template.code = TemplatePart.standIn builder.options.format functional) ∨
            (¬script.hasRender ∧ descriptor.template = none ∧ template.code = ""))) ∨
          (¬script.hasRender ∧ builder.Generates file descriptor bindings functional code ∧
            template.code = TemplatePart.connected code builder.options.format functional)) ∧
        BuiltModule.Aligned builder.options.format script.code code built.code := by
  refine ⟨Module.lines_withSetup, fun code => ?_, fun code => ?_,
    fun script _ _ _ _ h => BuiltModule.aligned_assemble script h, ?_⟩
  · simpa [Module.inFormat] using Module.keepsLines_asStatic code.toList
  · simpa [Module.inFormat] using Module.keepsLines_asDynamic code.toList
  · intro builder source file built h
    obtain ⟨descriptor, compiled, script, template, hdescriptor, hcompiled, hscript, htemplate,
      hcode, -⟩ := Builder.yields_build h
    have hgiven := Builder.yields_scriptPart hscript
    rcases Builder.yields_templatePart htemplate with
      hstand | hempty | ⟨hrender, code, hgenerated, hconnected⟩
    · refine ⟨descriptor, compiled, script, template, "", hdescriptor, hcompiled, hscript,
        htemplate, hcode, hgiven, .inl ⟨rfl, .inl hstand⟩, ?_⟩
      exact hcode ▸ BuiltModule.aligned_script _ script template
    · refine ⟨descriptor, compiled, script, template, "", hdescriptor, hcompiled, hscript,
        htemplate, hcode, hgiven, .inl ⟨rfl, .inr hempty⟩, ?_⟩
      exact hcode ▸ BuiltModule.aligned_script _ script template
    · refine ⟨descriptor, compiled, script, template, code, hdescriptor, hcompiled, hscript,
        htemplate, hcode, hgiven, .inr ⟨hrender, hgenerated, hconnected⟩, ?_⟩
      exact hcode ▸ BuiltModule.aligned_assemble script hconnected

/-- A module with setup code on two lines, and one that is built on a machine. -/
theorem lines_of_module_of_component :
    let compiler : Compiler (StateM Machine) := {
      version := "2.7.0"
      parse _ _ := return .ok { descriptor := { template := some { kind := .template } } }
      compileScript _ _ := return .ok (some { content := "exports = 1", setup := true })
      compileTemplate _ := return .ok { code := "export function render() \x7b\x7d" } }
    let builder : Builder (StateM Machine) := {
      compiler, version := ⟨"2.7.0", 2, 7, 0⟩, variant := .legacy, deliver := Record.announce }
    let content := "let a = 1\nexport default \x7b\x7d"
    (pieces '\n' (Module.withSetup content "" .dynamic).toList)[0]? = some "let a = 1".toList ∧
      ∃ built, Yields (builder.build "" ⟨"A.vue"⟩) built ∧
        ∃ (descriptor : Descriptor) (compiled : Option CompiledScript) (script : ScriptPart)
          (template : TemplatePart) (code : String),
          Yields (builder.scriptPart ⟨"A.vue"⟩ descriptor compiled) script ∧
            built.code = BuiltModule.assemble script template ∧
            BuiltModule.Aligned .dynamic script.code code built.code := by
  intro compiler builder content
  obtain ⟨hsetup, -, -, -, hbuild⟩ := @lines_of_module Machine _ _
  constructor
  · have hline := (hsetup content "" .dynamic).2 0 "let a = 1".toList (by decide) (by decide)
    rwa [if_neg (by decide)] at hline
  · obtain ⟨built, hbuilt⟩ : ∃ built, Yields (builder.build "" ⟨"A.vue"⟩) built :=
      ⟨_, default, _, rfl⟩
    obtain ⟨descriptor, compiled, script, template, code, -, -, hscript, -, hcode, -, -,
      haligned⟩ := hbuild builder "" ⟨"A.vue"⟩ built hbuilt
    exact ⟨built, hbuilt, descriptor, compiled, script, template, code, hscript, hcode, haligned⟩

end ComponentCompiler
