import ComponentCompiler.Json.Basic

/-!
# Components and their blocks

A component file has up to one template, one plain script and one script with setup, and any
number of styles. A block stands in the file or names another file that holds its text. What the
compiler makes of the scripts is one compiled script.
-/

namespace ComponentCompiler

inductive BlockKind where
  | template
  | script
  | style
  deriving DecidableEq, Repr, Inhabited

namespace BlockKind

/-- The name of the tag. -/
def name : BlockKind → String
  | template => "template"
  | script => "script"
  | style => "style"

def ofName? (name : String) : Option BlockKind :=
  [template, script, style].find? fun kind => kind.name == name

end BlockKind

/-- The attributes of an opening tag, sorted by name; one without a value is true. -/
abbrev Attributes := List (String × Json)

structure Block where
  kind : BlockKind
  content : String := ""
  /-- The file that holds the text, relative to the component. -/
  src : Option String := none
  lang : Option String := none
  attributes : Attributes := []
  /-- The offset of the text in the component file. -/
  start : Nat := 0
  /-- The offset after the text. -/
  stop : Nat := 0
  deriving Inhabited, BEq, Repr

/-- Whether a block has an attribute that is not switched off. -/
def Block.hasAttribute (block : Block) (name : String) : Bool :=
  match Keyed.get? name block.attributes with
  | none => false
  | some .null => false
  | some (.bool b) => b
  | some _ => true

/-- The script of a component as the compiler prepares it. -/
structure CompiledScript where
  content : String := ""
  /-- The file that holds the text, relative to the component. -/
  src : Option String := none
  lang : Option String := none
  /-- Whether a script with setup took part. -/
  setup : Bool := false
  /-- The source map of the text. -/
  map : Option Json := none
  /-- What the template has to know about the names in the script. -/
  bindings : Option Json := none
  deriving Inhabited, BEq, Repr

/-- The parsed form of a component file. -/
structure Descriptor where
  template : Option Block := none
  script : Option Block := none
  scriptSetup : Option Block := none
  styles : List Block := []
  deriving Inhabited, BEq, Repr

namespace Descriptor

def hasScripts (d : Descriptor) : Bool := d.script.isSome || d.scriptSetup.isSome

/-- The language of the scripts; the script with setup decides if it names one. -/
def scriptLanguage (d : Descriptor) : Option String :=
  (d.scriptSetup.bind Block.lang).orElse fun _ => d.script.bind Block.lang

/-- The languages that count as TypeScript. -/
def typescriptNames : List String := ["ts", "tsx"]

def usesTypescript (d : Descriptor) : Bool := d.scriptLanguage.any typescriptNames.contains

end Descriptor

/-- A component whose script is compiled once. The first success is remembered, also when there
is no script; a failure is not. -/
structure Component where
  descriptor : Descriptor
  compiled : Option (Option CompiledScript) := none
  deriving Inhabited

/-- The compiled script, and the component that remembers it. -/
def Component.compiledScript {m : Type → Type} [Monad m] {ε : Type} (component : Component)
    (compile : Descriptor → m (Except ε (Option CompiledScript))) :
    m (Except ε (Option CompiledScript) × Component) :=
  match component.compiled with
  | some script => pure (.ok script, component)
  | none => do
    match ← compile component.descriptor with
    | .ok script => pure (.ok script, { component with compiled := some script })
    | .error e => pure (.error e, component)

end ComponentCompiler
