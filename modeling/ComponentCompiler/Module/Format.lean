import ComponentCompiler.Config.Basic
import ComponentCompiler.Module.Recognise

/-!
# Putting code into a module format

Generated code is put into the form of the modules of a project. Static modules get an export
statement, dynamic modules an assignment to their exports and calls of `require`. Every change
keeps the lines of the code, so source maps stay valid.
-/

namespace ComponentCompiler.Module

open Text

/-- The start of a default export. -/
def exportStart : String := "export default "

/-- The start of a default export of an object. -/
def objectExport : String := "export default \x7b"

/-- The start of an assignment of a default export. -/
def assignedExport : String := "exports = module.exports = "

/-- Replaces the first start of an assignment of a default export. -/
def replaceAssignment (replacement : String) (code : List Char) : List Char :=
  Replacer.once (fun before s => (scanAssignment before s).map (replacement.toList, ·)) none code

/-- Turns an assigned default export into an export statement, unless there is one. -/
def asStatic (code : List Char) : List Char :=
  if occursIn exportStart.toList code then code else replaceAssignment exportStart code

/-- The declarations that may be exported. -/
def declarationWords : List String :=
  ["async function", "function", "const", "let", "var", "class"]

/-- An exported declaration stands for the declaration. -/
def bareDeclaration : Replacer := fun before s => do
  boundary? before s
  let s ← word? "export " s
  declarationWords.findSome? fun word => do
    let rest ← word? word s
    boundary? word.toList.getLast? rest
    return (word.toList, rest)

def isPathChar (c : Char) : Bool := isWord c || c == '.' || c == '/' || c == '@' || c == '-'

/-- A single or double quote. -/
def quote? : List Char → Option (Char × List Char)
  | c :: s => if c = '\'' ∨ c = '"' then some (c, s) else none
  | [] => none

/-- A quoted path, with its quotes, and what follows an optional semicolon. -/
def quotedPath? (isPath : List Char → Bool) (s : List Char) :
    Option (List Char × List Char) := do
  let (opening, s) ← quote? s
  let (path, s) ← run? isPathChar s
  let (closing, s) ← quote? s
  if isPath path then
    return (opening :: path ++ [closing], (word? ";" s).getD s)
  else
    none

/-- The letters of an ending, in any case; a long s counts as one. -/
def sameLetter (c d : Char) : Bool := asciiLower c == d || (c == 'ſ' && d == 's')

/-- Whether a path has a name before an ending, in any case. -/
def hasEnding (ending : String) (path : List Char) : Bool :=
  let letters := '.' :: ending.toList
  let tail := path.drop (path.length - letters.length)
  letters.length < path.length && (tail.zip letters).all fun pair => sameLetter pair.1 pair.2

/-- A path of an image. -/
def isAssetPath (path : List Char) : Bool :=
  ["gif", "jpg", "png", "svg"].any fun ending => hasEnding ending path

/-- The import of an image stands for an empty constant, with the path in a comment. -/
def assetConstant : Replacer := fun _ s => do
  let s ← word? "import " s
  let (name, s) ← run? (fun c => isWord c || c == '$' || c == '-') s
  let s ← word? " from " s
  let (path, rest) ← quotedPath? isAssetPath s
  return ("const ".toList ++ name ++ " = ''; // ".toList ++ path, rest)

def isSpecifierChar (c : Char) : Bool :=
  isWord c || c == ' ' || c == ',' || c == '$' || c == '-'

/-- An import of names stands for a constant with the names of what is required. -/
def requiredNames : Replacer := fun _ s => do
  let s ← word? "import \x7b" s
  let (names, s) ← run? isSpecifierChar s
  let s ← word? "\x7d from " s
  let (path, rest) ← quotedPath? (fun _ => true) s
  let names := replaceEvery " as ".toList ": ".toList names
  return ("const \x7b".toList ++ names ++ "\x7d = require(".toList ++ path ++ ");".toList, rest)

/-- Turns exports and imports into assignments and calls of `require`. -/
def asDynamic (code : List Char) : List Char :=
  let code := Replacer.everywhere bareDeclaration none 0 code
  let code := Replacer.everywhere assetConstant none 0 code
  let code := Replacer.everywhere requiredNames none 0 code
  replaceFirst exportStart.toList assignedExport.toList code

/-- Puts code into a module format. -/
def inFormat (code : String) : ModuleForm → String
  | .static => String.ofList (asStatic code.toList)
  | .dynamic => String.ofList (asDynamic code.toList)

/-- Drops the first inferred name. -/
def dropInferredName (code : List Char) : List Char :=
  Replacer.once (fun before s => (scanInferredName before s).map ([], ·)) none code

/-- An inferred name gives way to an explicit one. -/
def settleName (code : List Char) : List Char :=
  if found scanExplicitName none code && found scanInferredName none code then
    dropInferredName code
  else
    code

/-- The default export of setup code that spreads the object of the plain script. -/
def spreadExport : ModuleForm → String
  | .static => "export default \x7b ...__default__,"
  | .dynamic => "exports = module.exports = \x7b ...__default__,"

/-- Brings merged setup code together with the plain script beside it. -/
def mergedExports (content : List Char) (plain : String) (format : ModuleForm) : List Char :=
  if isBlankText plain.toList then
    if format = .dynamic && occursIn objectExport.toList content then
      replaceFirst objectExport.toList "/*#__PURE__*/Object.assign(module.exports, \x7b".toList
        content ++ ");".toList
    else
      content
  else if occurs scanExportsAssigned plain && found scanAssignment none content then
    replaceFirst objectExport.toList (spreadExport format).toList
      (replaceAssignment "const __default__ = " content)
  else
    content

/-- The code of a script with setup. Without a plain script the default export of a dynamic
module changes its exports in place; an object that the plain script exports is spread into the
default export. -/
def withSetup (content plain : String) (format : ModuleForm) : String :=
  String.ofList (settleName (mergedExports content.toList plain format))

end ComponentCompiler.Module
