import ComponentCompiler.Proofs.Build.Stages
import ComponentCompiler.Proofs.Cache.Freshness

/-!
# The files that a module was made from

A module depends on the component that it was built for and on files that blocks of the component
name. These are found from the directory of the component, so those of a component with an absolute
path have absolute paths (`isAbsolute_of_build`).
-/

namespace ComponentCompiler

open ComponentCompiler.Path

theorem yields_of_run {σ ε α : Type} {x : ExceptT ε (StateM σ) α} {s : σ} {a : α}
    (h : (Host.run s x.run).1 = .ok a) : Yields x a :=
  ⟨s, (Host.run s x.run).2, Prod.ext h rfl⟩

theorem yields_of_toOption {σ ε α : Type} {x : ExceptT ε (StateM σ) α} {s : σ} {a : α}
    (h : (Host.run s x.run).1.toOption = some a) : Yields x a := by
  cases hresult : (Host.run s x.run).1 with
  | error e =>
    rw [hresult] at h
    cases h
  | ok b =>
    rw [hresult] at h
    cases h
    exact yields_of_run hresult

namespace BlockText

variable {file : Path}

/-- From the directory of a component with an absolute path every file has an absolute path. -/
theorem isAbsolute_externalPath (h : file.isAbsolute) (hparts : file.parts ≠ []) (src : String) :
    (externalPath file src).isAbsolute := by
  obtain ⟨s, hs⟩ := exists_text_of_isAbsolute h
  have hlead : lead file.text.toList = ['/'] := by simp [lead, hs]
  obtain ⟨tail, hbody, hsilent⟩ := Text.dropTail_append isSilent (body file.text.toList)
  have hkept : Text.dropTail isSilent (body file.text.toList) ≠ [] := by
    intro hnil
    refine hparts ?_
    rw [parts, hbody, hnil, List.nil_append, List.filter_eq_nil_iff]
    intro piece hpiece
    simp [hsilent piece hpiece]
  obtain ⟨last, kept, hreverse⟩ := List.exists_cons_of_ne_nil (List.reverse_ne_nil_iff.mpr hkept)
  have hparent : file.parent? = some ⟨String.ofList
      ('/' :: Text.joined ['/'] (Text.dropTail isSilent kept.reverse))⟩ := by
    rw [parent?, hreverse, hlead]
    rfl
  rw [externalPath, hparent, Option.getD_some]
  exact isAbsolute_join (isAbsolute_of_text String.toList_ofList) _

end BlockText

namespace Builder

variable {σ : Type} [Files (StateM σ)] [Journal (StateM σ)] {builder : Builder (StateM σ)}
  {source : String} {file : Path} {built : BuiltModule}

/-- A text that was not inline was read from a file that the block names. -/
theorem external_of_resolve {kind : BlockKind} {content : String} {src : Option String}
    {text : BlockText}
    (h : Yields (ExceptT.mk (BlockText.resolve kind content src file :
      StateM σ (Except BuildError BlockText))) text) :
    ∀ path ∈ text.external, ∃ src, path = BlockText.externalPath file src := by
  obtain ⟨s, s', h⟩ := h
  cases src with
  | none =>
    cases h
    nofun
  | some src =>
    change Host.run s (BlockText.resolve kind content (some src) file) = _ at h
    rw [BlockText.resolve, Host.run_bind, Host.run_bind] at h
    split at h
    · cases h
    · cases h
      intro path hpath
      exact ⟨src, (Option.some.inj hpath).symm⟩

/-- What a script part tells about the script that it was made from. -/
theorem script_of_scriptPart {descriptor : Descriptor} {compiled : CompiledScript}
    {script : ScriptPart}
    (h : Yields (builder.scriptPart file descriptor (some compiled)) script) :
    ∃ text, Yields (ExceptT.mk (BlockText.ofScript compiled file : StateM σ _)) text ∧
      script.external = text.external ∧ script.hasRender = Module.rendersItself text.content := by
  obtain ⟨text, htext, h⟩ := yields_bind h
  obtain ⟨_, -, h⟩ := yields_bind h
  obtain ⟨_, -, h⟩ := yields_bind h
  obtain ⟨_, -, h⟩ := yields_bind h
  obtain rfl := yields_pure h
  exact ⟨text, htext, rfl, rfl⟩

theorem external_of_scriptPart {descriptor : Descriptor} {compiled : Option CompiledScript}
    {script : ScriptPart}
    (h : Yields (builder.scriptPart file descriptor compiled) script) :
    ∀ path ∈ script.external, ∃ src, path = BlockText.externalPath file src := by
  cases compiled with
  | none =>
    obtain rfl := yields_pure h
    nofun
  | some compiled =>
    obtain ⟨text, htext, hexternal, -⟩ := script_of_scriptPart h
    rw [hexternal]
    exact external_of_resolve htext

omit [Files (StateM σ)] in
theorem external_of_compileTemplate {descriptor : Descriptor} {bindings : Option Json}
    {functional : Bool} {sources : SourceSet} {text : BlockText} {template : TemplatePart}
    (h : Yields (builder.compileTemplate file descriptor bindings functional sources text)
      template) : template.external = text.external := by
  obtain ⟨_, -, h⟩ := yields_bind h
  obtain ⟨_, -, h⟩ := yields_bind h
  obtain ⟨_, -, h⟩ := yields_bind h
  obtain ⟨_, -, h⟩ := yields_bind h
  obtain ⟨_, -, h⟩ := yields_bind h
  obtain rfl := yields_pure h
  rfl

theorem external_of_templatePart {descriptor : Descriptor} {bindings : Option Json}
    {script : ScriptPart} {sources : SourceSet} {template : TemplatePart}
    (h : Yields (builder.templatePart file descriptor bindings script sources) template) :
    ∀ path ∈ template.external, ∃ src, path = BlockText.externalPath file src := by
  obtain ⟨_, -, h⟩ := yields_bind h
  split at h
  · obtain rfl := yields_pure h
    nofun
  · split at h
    · obtain rfl := yields_pure h
      nofun
    · obtain ⟨text, htext, h⟩ := yields_bind h
      rw [external_of_compileTemplate h]
      exact external_of_resolve htext

/-- A module depends on its component and on files that blocks of the component name. -/
theorem dependencies_of_build (h : Yields (builder.build source file) built) :
    built.dependencies.component = file ∧
      ∀ path ∈ built.dependencies.externals, ∃ src, path = BlockText.externalPath file src := by
  obtain ⟨descriptor, compiled, script, template, -, -, hscript, htemplate, -, hfiles⟩ :=
    yields_build h
  rw [hfiles]
  refine ⟨rfl, fun path hpath => ?_⟩
  rcases List.mem_append.mp hpath with hpath | hpath
  · exact external_of_scriptPart hscript path (Option.mem_toList.mp hpath)
  · exact external_of_templatePart htemplate path (Option.mem_toList.mp hpath)

/-- The files that a module depends on have absolute paths if the component has one. -/
theorem isAbsolute_of_build (h : Yields (builder.build source file) built)
    (hfile : file.isAbsolute) (hparts : file.parts ≠ []) :
    ∀ path ∈ built.dependencies.externals, path.isAbsolute := by
  intro path hpath
  obtain ⟨src, rfl⟩ := (dependencies_of_build h).2 path hpath
  exact BlockText.isAbsolute_externalPath hfile hparts src

end Builder
end ComponentCompiler
