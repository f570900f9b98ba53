import ComponentCompiler.Proofs.Build.Lines
import ComponentCompiler.Proofs.Module.Exports

/-!
# One format in a module

A body is of one format if no line exports while another one assigns to the exports, and a dynamic
one if no line exports at all. The lines of a body are those of its parts, so whether it is of one
format depends on what the format makes of the script, on the code of the template and on the lines
that connect both (`exclusive_iff`).
-/

namespace ComponentCompiler

open Text ComponentCompiler.Module

namespace TemplatePart

variable {p : List Char → Bool}

theorem someLine_nil (hp : p [] = false) : someLine p [] = false := by
  simp [someLine, pieces, hp]

/-- A line of stacked parts is a line of one of them, but for empty lines. -/
theorem someLine_stacked (hp : p [] = false) (parts : List String) :
    someLine p (stacked parts).toList = parts.any fun part => someLine p part.toList := by
  have hempty : someLine p "".toList = false := someLine_nil hp
  have hfilter : (parts.any fun part => someLine p part.toList) =
      (parts.filter (· != "")).any fun part => someLine p part.toList := by
    rw [List.any_filter]
    refine any_congr_of_mem fun part _ => ?_
    rcases eq_or_ne part "" with rfl | hne
    · rw [hempty, Bool.and_false]
    · simp [hne]
  rw [hfilter, stacked]
  generalize parts.filter (· != "") = parts
  induction parts with
  | nil => exact hempty
  | cons part parts ih =>
    cases parts with
    | nil => simp
    | cons next parts =>
      rw [List.any_cons, ← ih, ← someLine_append, String.intercalate_cons_cons]
      simp [String.toList_append]

end TemplatePart

namespace BuiltModule

/-- No line exports while another one assigns to the exports, and in a dynamic module none
exports. -/
def Exclusive (format : ModuleForm) (body : String) : Prop :=
  ¬(someLine startsExport body.toList ∧ someLine startsAssignment body.toList) ∧
    (format = .dynamic → ¬someLine startsExport body.toList)

/-- The lines that connect the code of a template, or that stand in for one. -/
def Connects (format : ModuleForm) (code : String) (lines : List String) : Prop :=
  lines = [] ∨ ∃ functional, lines = renderLines format functional ∨
    lines = templateLines (TemplatePart.formatted code format) format functional

/-- A format leaves no export next to an assignment: in a dynamic module every export of the script
and of the code of the template was rewritten; in a static one nothing exports, or all that assigned
was rewritten. -/
def Converts (text code : String) (lines : List String) : ModuleForm → Prop
  | .dynamic => exportsDynamic text.toList = false ∧ exportsDynamic code.toList = false
  | .static =>
    (exportsStatic text.toList = false ∧ someLine startsExport code.toList = false ∧ lines = []) ∨
    (assignsStatic text.toList = false ∧ someLine startsAssignment code.toList = false)

section Connects

variable {format : ModuleForm} {code : String} {lines : List String}

theorem someLine_setOption {p : List Char → Bool} (hp : ∀ s, p (';' :: s) = false)
    {option value : String} (h : '\n' ∉ option.toList) (h' : '\n' ∉ value.toList) :
    someLine p (setOption option value).toList = false := by
  have hexpression : '\n' ∉ optionsExpression.toList := by decide +kernel
  have hline : '\n' ∉ (setOption option value).toList := by
    simp [setOption, hexpression, h, h']
  rw [someLine, pieces_of_not_mem hline, List.any_cons, List.any_nil, Bool.or_false, setOption]
  simp only [String.toList_append]
  exact hp _

/-- The lines that connect a dynamic module export nothing. -/
theorem Connects.dynamic (h : Connects .dynamic code lines) :
    (lines.any fun line => someLine startsExport line.toList) = false := by
  have hset {option value : String} (hoption : '\n' ∉ option.toList)
      (hvalue : '\n' ∉ value.toList) :
      someLine startsExport (setOption option value).toList = false :=
    someLine_setOption (fun _ => rfl) hoption hvalue
  rw [List.any_eq_false]
  intro line hline
  rcases h with rfl | ⟨functional, rfl | rfl⟩
  · cases hline
  · simp only [renderLines, List.mem_cons, List.not_mem_nil, or_false] at hline
    rcases hline with rfl | rfl | rfl
    · simp [hset]
    · cases functional <;> simp [hset, truthWord]
    · simp [hset]
  · simp only [templateLines, List.mem_append, List.mem_cons, List.not_mem_nil, or_false,
      List.mem_ite_nil_right] at hline
    rcases hline with ((rfl | rfl) | ⟨-, rfl⟩) | ⟨-, rfl⟩
    · simp [hset]
    · cases functional <;> simp [hset, truthWord]
    · simp [hset]
    · simp [hset]

theorem unexportedNames_cases (code : String) : unexportedNames code ∈
    [[], ["render"], ["staticRenderFns"], ["render", "staticRenderFns"]] := by
  rw [unexportedNames]
  split <;> split <;> simp

/-- The lines that connect a static module export if there are any, and assign nothing. -/
theorem Connects.static (h : Connects .static code lines) :
    (lines.any fun line => someLine startsExport line.toList) = !lines.isEmpty ∧
      (lines.any fun line => someLine startsAssignment line.toList) = false := by
  rcases h with rfl | ⟨functional, rfl | rfl⟩
  · exact ⟨rfl, rfl⟩
  · exact ⟨rfl, rfl⟩
  · have hnames := unexportedNames_cases code
    rw [TemplatePart.formatted, templateLines]
    generalize unexportedNames code = names at hnames ⊢
    simp only [List.mem_cons, List.not_mem_nil, or_false] at hnames
    rcases hnames with rfl | rfl | rfl | rfl <;> exact ⟨rfl, rfl⟩

end Connects

/-- The body of a module from the text of its script, the code of its template and the lines that
connect them. -/
def bodyOf (text code : String) (lines : List String) (format : ModuleForm) : String :=
  body (inFormat text format) (TemplatePart.stacked (TemplatePart.formatted code format :: lines))

theorem someLine_bodyOf {p : List Char → Bool} (hp : p [] = false) (text code : String)
    (lines : List String) (format : ModuleForm) :
    someLine p (bodyOf text code lines format).toList =
      (someLine p (inFormat text format).toList ||
        (someLine p (TemplatePart.formatted code format).toList ||
          lines.any fun line => someLine p line.toList)) := by
  rw [bodyOf, body, TemplatePart.someLine_stacked hp]
  simp only [List.any_cons, List.any_nil, Bool.or_false]
  rw [TemplatePart.someLine_stacked hp, List.any_cons]

/-- A module is of one format exactly if its parts were converted. -/
theorem exclusive_iff {format : ModuleForm} {text code : String} {lines : List String}
    (h : Connects format code lines) :
    Exclusive format (bodyOf text code lines format) ↔ Converts text code lines format := by
  cases format with
  | dynamic =>
    rw [Exclusive, someLine_bodyOf (by rfl), someLine_bodyOf (by rfl), h.dynamic]
    simp only [inFormat, TemplatePart.formatted, String.toList_ofList, startsExport_asDynamic]
    constructor
    · rintro ⟨-, hnone⟩
      simpa [Converts] using hnone trivial
    · rintro ⟨htext, hcode⟩
      simp [htext, hcode]
  | static =>
    rw [Exclusive, someLine_bodyOf (by rfl), someLine_bodyOf (by rfl), h.static.1, h.static.2]
    simp only [inFormat, TemplatePart.formatted, String.toList_ofList, startsExport_asStatic,
      startsAssignment_asStatic]
    grind [Converts]

end BuiltModule

namespace Builder

variable {σ : Type} [Files (StateM σ)] [Journal (StateM σ)] {builder : Builder (StateM σ)}

open BuiltModule

theorem connected_eq (code : String) (format : ModuleForm) (functional : Bool) :
    TemplatePart.connected code format functional =
      TemplatePart.stacked
        (TemplatePart.formatted code format ::
          templateLines (TemplatePart.formatted code format) format functional) := by
  cases format <;> simp only [TemplatePart.connected, TemplatePart.formatted]

theorem standIn_eq (format : ModuleForm) (functional : Bool) :
    TemplatePart.standIn format functional =
      TemplatePart.stacked (TemplatePart.formatted "" format :: renderLines format functional) := by
  cases format <;> cases functional <;> rfl

/-- The code that is generated for the template of a component, and the lines that connect it with
the script; a script that renders by itself is only connected. -/
inductive Furnishes (builder : Builder (StateM σ)) (file : Path) (descriptor : Descriptor)
    (bindings : Option Json) (script : ScriptPart) : String → List String → Prop
  | rendered (h : script.hasRender) : Furnishes builder file descriptor bindings script ""
      (renderLines builder.options.format (isFunctional descriptor script))
  | absent (h : ¬script.hasRender) (hnone : descriptor.template = none) :
      Furnishes builder file descriptor bindings script "" []
  | generated {code : String} (h : ¬script.hasRender)
      (hcode : builder.Generates file descriptor bindings (isFunctional descriptor script) code) :
      Furnishes builder file descriptor bindings script code
        (templateLines (TemplatePart.formatted code builder.options.format)
          builder.options.format (isFunctional descriptor script))

theorem Furnishes.connects {file : Path} {descriptor : Descriptor} {bindings : Option Json}
    {script : ScriptPart} {code : String} {lines : List String}
    (h : builder.Furnishes file descriptor bindings script code lines) :
    Connects builder.options.format code lines := by
  cases h with
  | rendered => exact .inr ⟨_, .inl rfl⟩
  | absent => exact .inl rfl
  | generated => exact .inr ⟨_, .inr rfl⟩

theorem yields_furnished {file : Path} {descriptor : Descriptor} {bindings : Option Json}
    {script : ScriptPart} {sources : SourceSet} {template : TemplatePart}
    (h : Yields (builder.templatePart file descriptor bindings script sources) template) :
    ∃ code lines, builder.Furnishes file descriptor bindings script code lines ∧ template.code =
      TemplatePart.stacked (TemplatePart.formatted code builder.options.format :: lines) := by
  rcases yields_templatePart h with
    ⟨hrender, hcode⟩ | ⟨hrender, hnone, hcode⟩ | ⟨hrender, code, hgenerated, hcode⟩
  · exact ⟨"", _, .rendered hrender, hcode.trans (standIn_eq _ _)⟩
  · refine ⟨"", [], .absent hrender hnone, ?_⟩
    rw [hcode]
    cases builder.options.format <;> rfl
  · exact ⟨code, _, .generated hrender hgenerated, hcode.trans (connected_eq _ _ _)⟩

/-- A module is made of the text that was handed over for its script, of the code that was generated
for its template and of lines that connect both, and it is of one format exactly if the format
converts the text and the code. -/
theorem format_of_module {source : String} {file : Path} {built : BuiltModule}
    (h : Yields (builder.build source file) built) :
    ∃ descriptor compiled script template text code lines map,
      let bindings := compiled.bind CompiledScript.bindings
      let body := bodyOf text code lines builder.options.format
      Yields (builder.parse source file) descriptor ∧
      Yields (builder.compileScript file descriptor) compiled ∧
      Yields (builder.scriptPart file descriptor compiled) script ∧
      Yields (builder.templatePart file descriptor bindings script ⟨[⟨file, source⟩]⟩) template ∧
      ((compiled = none ∧ text = "") ∨
        ∃ given, compiled = some given ∧ builder.HandsOver file descriptor given text) ∧
      builder.Furnishes file descriptor bindings script code lines ∧
      Connects builder.options.format code lines ∧
      built.code = withMap body map ∧
      (Exclusive builder.options.format body ↔
        Converts text code lines builder.options.format) := by
  obtain ⟨descriptor, compiled, script, template, hdescriptor, hcompiled, hscript, htemplate,
    hcode, -⟩ := yields_build h
  have htext : ∃ text, ((compiled = none ∧ text = "") ∨
      ∃ given, compiled = some given ∧ builder.HandsOver file descriptor given text) ∧
      script.code = inFormat text builder.options.format := by
    rcases yields_scriptPart hscript with ⟨hnone, hempty⟩ | ⟨given, text, hgiven, htext, hformat⟩
    · refine ⟨"", .inl ⟨hnone, rfl⟩, hempty.trans ?_⟩
      cases builder.options.format <;> rfl
    · exact ⟨text, .inr ⟨given, hgiven, htext⟩, hformat⟩
  obtain ⟨text, htext, hformat⟩ := htext
  obtain ⟨code, lines, hfurnished, hstacked⟩ := yields_furnished htemplate
  refine ⟨descriptor, compiled, script, template, text, code, lines,
    SourceMap.compose script.map template.map script.code, hdescriptor, hcompiled, hscript,
    htemplate, htext, hfurnished, hfurnished.connects, ?_, exclusive_iff hfurnished.connects⟩
  rw [hcode, assemble, hformat, hstacked, bodyOf]

/-- A builder for components with a script and a template, whatever their text. -/
def fixed (format : ModuleForm) (script code : String) : Builder (StateM Machine) where
  compiler := {
    version := "3.4.21"
    parse _ _ := return .ok { descriptor := { template := some { kind := .template } } }
    compileScript _ _ := return .ok (some { content := script })
    compileTemplate _ := return .ok { code } }
  version := ⟨"3.4.21", 3, 4, 21⟩
  variant := .modern
  options := { format }
  deliver := Record.announce

/-- An assigned default export and an exported function in a static module. -/
theorem format_of_module_of_assignment :
    let builder := fixed .static "module.exports = {}" "export function render() {}"
    ∃ built, Yields (builder.build "" ⟨"A.vue"⟩) built ∧ ∃ text code lines map,
      Connects .static code lines ∧ built.code = withMap (bodyOf text code lines .static) map ∧
      (Exclusive .static (bodyOf text code lines .static) ↔ Converts text code lines .static) := by
  intro builder
  obtain ⟨built, hbuilt⟩ : ∃ built, Yields (builder.build "" ⟨"A.vue"⟩) built :=
    ⟨_, default, _, rfl⟩
  obtain ⟨-, -, -, -, text, code, lines, map, -, -, -, -, -, -, hlines, hcode, hformat⟩ :=
    format_of_module hbuilt
  exact ⟨built, hbuilt, text, code, lines, map, hlines, hcode, hformat⟩

/-- Without blanks around its sign an assignment stays in a static module, next to the exported
function; an exported list of names stays in a dynamic one. -/
theorem not_exclusive_of_spacing :
    (∃ built map body, Yields
      ((fixed .static "module.exports={}" "function render() {}").build "" ⟨"A.vue"⟩)
      built ∧ built.code = withMap body map ∧ ¬Exclusive .static body) ∧
    ∃ built map body, Yields
      ((fixed .dynamic "export { a };" "").build "" ⟨"A.vue"⟩) built ∧
      built.code = withMap body map ∧ ¬Exclusive .dynamic body := by
  constructor
  · have hlines : Connects .static "function render() \x7b\x7d" ["export \x7b render \x7d;"] :=
      .inr ⟨false, .inr rfl⟩
    have hkept : assignsStatic "module.exports=\x7b\x7d".toList :=
      assignsStatic_of_spacing (List.mem_singleton_self _) (by decide) (by decide)
    refine ⟨_, none, bodyOf "module.exports=\x7b\x7d" "function render() \x7b\x7d" _ .static,
      ⟨default, _, rfl⟩, rfl, (exclusive_iff hlines).not.mpr ?_⟩
    rintro (⟨-, -, hnone⟩ | ⟨hnone, -⟩)
    · cases hnone
    · rw [hkept] at hnone
      cases hnone
  · have hlines : Connects .dynamic "" (templateLines "" .dynamic false) := .inr ⟨false, .inr rfl⟩
    have hkept : exportsDynamic "export \x7b a \x7d;".toList :=
      exportsDynamic_of_clause (List.mem_singleton_self _) (.inl (by decide))
    refine ⟨_, none, bodyOf "export \x7b a \x7d;" "" _ .dynamic, ⟨default, _, rfl⟩, rfl,
      (exclusive_iff hlines).not.mpr ?_⟩
    rintro ⟨hnone, -⟩
    rw [hkept] at hnone
    cases hnone

end Builder

end ComponentCompiler
