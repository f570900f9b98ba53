import ComponentCompiler.Source.Frame

/-!
# Diagnostics

Messages about one component come from reading the component or from compiling its template, the
latter as errors or as tips. Each of these categories is reported, silenced and filtered on its
own. A diagnostic is a message of a category with the place it is about.
-/

namespace ComponentCompiler

/-- How loudly a message is reported. -/
inductive Severity where
  | warning
  | error
  deriving DecidableEq, Repr

def Severity.name : Severity → String
  | .warning => "warning"
  | .error => "error"

inductive Category where
  | parserError
  | templateError
  | templateTip
  deriving DecidableEq, Repr

namespace Category

/-- The categories in the order in which they are reported. -/
def all : List Category := [parserError, templateError, templateTip]

def severity : Category → Severity
  | parserError | templateError => .error
  | templateTip => .warning

/-- The name in documents and log fields. -/
def name : Category → String
  | parserError => "parser_error"
  | templateError => "template_error"
  | templateTip => "template_tip"

/-- The plural in headers. -/
def heading : Category → String
  | parserError => "parser errors"
  | templateError => "compiler errors"
  | templateTip => "compiler tips"

/-- The singular in front of a message. -/
def tag : Category → String
  | parserError => "parser error"
  | templateError => "compiler error"
  | templateTip => "compiler tip"

end Category

structure Diagnostic where
  category : Category
  message : String
  span : Span := Span.nowhere
  deriving DecidableEq, Repr

def Diagnostic.severity (d : Diagnostic) : Severity := d.category.severity

end ComponentCompiler
