import ComponentCompiler.Text.Scan

/-!
# What scripts and templates declare

The generated code of a component is read as text. Each scanner here recognises one way of
writing something: a render function, a functional component, an assignment to the exports, a
component name.
-/

namespace ComponentCompiler.Module

open Text

/-- A word, then a part after any blanks. -/
def wordThen? (word : String) (next : List Char → Option (List Char)) (s : List Char) :
    Option (List Char) :=
  (word? word s).bind fun s => next (skipBlanks s)

/-- A render function: its name, perhaps a colon, and an opening parenthesis. -/
def scanRender : Scanner := fun _ s =>
  wordThen? "render" (fun s => word? "(" (skipBlanks ((word? ":" s).getD s))) s

/-- The option that makes a component functional. -/
def scanFunctional : Scanner := fun _ s =>
  wordThen? "functional" (wordThen? ":" (word? "true")) s

/-- An assignment to the exports with any blanks around the sign. -/
def scanExportsAssigned : Scanner := fun _ s => wordThen? "exports" (word? "=") s

/-- The ways to start an assignment of a default export, the longest first. -/
def assignmentStarts : List String :=
  ["exports = module.exports = ", "exports = exports = ", "module.exports = ", "exports = "]

/-- The start of an assignment of a default export. -/
def scanAssignment : Scanner := fun _ s => oneOf? assignmentStarts s

def isNameChar (c : Char) : Bool := isWord c || c == '-'

/-- A field with a quoted name. -/
def scanField (field : String) : Scanner := fun before s => do
  boundary? before s
  let s ← word? field s
  let (_, s) ← run? isNameChar s
  word? "'" s

/-- The name of a component that its author gave. -/
def scanExplicitName : Scanner := scanField "name: '"

/-- The name of a component that was inferred, with a comma after it. -/
def scanInferredName : Scanner := fun before s =>
  (scanField "__name: '" before s).map fun s => (word? "," s).getD s

/-- The words that declare a variable. -/
def variableWords : List String := ["var", "let", "const"]

/-- A variable with a name and a value, after a word that declares it. -/
def scanVariable (name : String) (s : List Char) : Option (List Char) := do
  let s ← oneOf? variableWords s
  let s ← blanks? s
  wordThen? name (word? "=") s

/-- A function with a name. -/
def scanFunction (name : String) (s : List Char) : Option (List Char) := do
  let s ← word? "function" s
  let s ← blanks? s
  wordThen? name (word? "(") s

/-- A declared render function. -/
def scanRenderDeclared (s : List Char) : Option (List Char) :=
  (scanFunction "render" s).orElse fun _ => scanVariable "render" s

/-- The declared functions for the static parts of a template. -/
def scanStaticDeclared (s : List Char) : Option (List Char) := scanVariable "staticRenderFns" s

/-- A declaration where a word starts. -/
def declared (scan : List Char → Option (List Char)) : Scanner := fun before s => do
  boundary? before s
  scan s

/-- An exported declaration. -/
def exported (scan : List Char → Option (List Char)) : Scanner := fun before s => do
  boundary? before s
  let s ← word? "export" s
  let s ← blanks? s
  scan s

/-- Whether a scanner recognises something in a code. -/
def occurs (scan : Scanner) (code : String) : Bool := found scan none code.toList

/-- Whether a script has a render function of its own. -/
def rendersItself (script : String) : Bool := occurs scanRender script

/-- Whether a script declares a functional component. -/
def isFunctionalCode (script : String) : Bool := occurs scanFunctional script

end ComponentCompiler.Module
