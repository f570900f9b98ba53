import ComponentCompiler.Module.Format

/-!
# Joining a template to its script

Lines at the end of a module connect the functions of the template with the component that the
script exports.
-/

namespace ComponentCompiler.Module

/-- The options of the component in a dynamic module, however the script exports them. -/
def optionsExpression : String :=
  "((module.exports.default || module.exports).options || module.exports.default || module.exports)"

/-- A line that sets an option of the component. -/
def setOption (option value : String) : String :=
  ";" ++ optionsExpression ++ "." ++ option ++ value

def truthWord (b : Bool) : String := if b then "true" else "false"

/-- The names that the code of a template declares and does not export. -/
def unexportedNames (code : String) : List String :=
  (if occurs (declared scanRenderDeclared) code && !occurs (exported scanRenderDeclared) code then
    ["render"] else []) ++
  (if occurs (declared scanStaticDeclared) code && !occurs (exported scanStaticDeclared) code then
    ["staticRenderFns"] else [])

/-- The lines after the code of a template. -/
def templateLines (code : String) (format : ModuleForm) (functional : Bool) : List String :=
  match format with
  | .dynamic =>
    [setOption "_compiled" "=true", setOption "functional" ("=" ++ truthWord functional)] ++
    (if occurs (declared scanRenderDeclared) code then
      [setOption "render" " = render"] else []) ++
    (if occurs (declared scanStaticDeclared) code then
      [setOption "staticRenderFns" " = staticRenderFns"] else [])
  | .static =>
    match unexportedNames code with
    | [] => []
    | names => ["export \x7b " ++ String.intercalate ", " names ++ " \x7d;"]

/-- The lines in place of a template when the script renders by itself. -/
def renderLines (format : ModuleForm) (functional : Bool) : List String :=
  match format with
  | .dynamic =>
    [setOption "_compiled" "=false", setOption "functional" ("=" ++ truthWord functional),
      setOption "staticRenderFns" " = []"]
  | .static => ["var staticRenderFns = [];", "export \x7b staticRenderFns \x7d;"]

end ComponentCompiler.Module
