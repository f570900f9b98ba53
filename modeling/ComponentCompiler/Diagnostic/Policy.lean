import ComponentCompiler.Diagnostic.Basic
import ComponentCompiler.Pattern.Parser

/-!
# Which diagnostics are reported

A category can be switched off, and single messages of it can be excluded by their text or by a
search pattern. A message is reported when its category is on and no rule excludes it.
-/

namespace ComponentCompiler

inductive Exclusion where
  /-- Excludes the messages with exactly this text. -/
  | exact (text : String)
  /-- Excludes the messages in which a pattern occurs; the source is its written form. -/
  | pattern (source : String) (pattern : Pattern)
  deriving Inhabited

namespace Exclusion

def excludes : Exclusion → String → Bool
  | exact text, message => text == message
  | pattern _ p, message => p.occursIn message

/-- The rule for a written pattern, if it is one. -/
def ofPattern? (source : String) : Option Exclusion :=
  (Pattern.parse? source).map (pattern source)

/-- Two patterns are the same rule when they are written alike. -/
def same : Exclusion → Exclusion → Bool
  | exact a, exact b => a == b
  | pattern a _, pattern b _ => a == b
  | _, _ => false

instance : BEq Exclusion := ⟨same⟩

end Exclusion

/-- A list of rules; one that excludes a message is enough. -/
structure Exclusions where
  rules : List Exclusion := []
  deriving Inhabited, BEq

namespace Exclusions

/-- Whether no rule excludes a message. -/
def admits (filter : Exclusions) (message : String) : Bool :=
  !filter.rules.any fun rule => rule.excludes message

def size (filter : Exclusions) : Nat := filter.rules.length

end Exclusions

/-- What is reported of one category: nothing, or what its rules leave over. -/
structure CategorySetting where
  enabled : Bool := true
  filter : Exclusions := {}
  deriving Inhabited, BEq

/-- What is reported, per category. -/
structure Policy where
  parserErrors : CategorySetting := {}
  templateErrors : CategorySetting := {}
  templateTips : CategorySetting := {}
  deriving Inhabited, BEq

namespace Policy

def category (policy : Policy) : Category → CategorySetting
  | .parserError => policy.parserErrors
  | .templateError => policy.templateErrors
  | .templateTip => policy.templateTips

/-- Whether a diagnostic is reported. -/
def admits (policy : Policy) (d : Diagnostic) : Bool :=
  (policy.category d.category).enabled && (policy.category d.category).filter.admits d.message

end Policy
end ComponentCompiler
