import ComponentCompiler.Text.Age
import ComponentCompiler.Text.CaseFold
import ComponentCompiler.Text.Lines
import ComponentCompiler.Text.Segment

/-!
# Sets of characters by property

A pattern may name the characters of a general category, a script or a yes-or-no property, or
give a property and its value. Case, blanks, hyphens and underscores in names do not matter, and
neither does `is` before them.
-/

namespace ComponentCompiler.Pattern

/-- A name as names are compared. A lone `c` after `is` stays as it is written: the property of
that name is no set of characters, and not the category `c`. -/
def comparedName (name : List Char) : String :=
  let isMark (c : Char) : Bool := c == ' ' || c == '_' || c == '-'
  let kept (s : List Char) : List Char :=
    (s.filter fun c => c.toNat < 128 && !isMark c).map Text.asciiLower
  match name with
  | a :: b :: rest =>
    if Text.asciiLower a = 'i' && Text.asciiLower b = 's' then
      if kept rest = ['c'] then "isc" else String.ofList (kept rest)
    else
      String.ofList (kept name)
  | _ => String.ofList (kept name)

/-- The names of groups of categories, and the further names of single ones. -/
def categoryNames : List (String × List String) :=
  [("C", ["c", "other"]), ("L", ["l", "letter"]), ("M", ["m", "mark", "combiningmark"]),
    ("N", ["n", "number"]), ("P", ["p", "punctuation", "punct"]), ("S", ["s", "symbol"]),
    ("Z", ["z", "separator"]), ("Cc", ["cc", "control", "cntrl"]), ("Cf", ["cf", "format"]),
    ("Cn", ["cn", "unassigned"]), ("Co", ["co", "privateuse"]), ("Ll", ["ll", "lowercaseletter"]),
    ("Lm", ["lm", "modifierletter"]), ("Lo", ["lo", "otherletter"]),
    ("Lt", ["lt", "titlecaseletter"]), ("Lu", ["lu", "uppercaseletter"]),
    ("Mc", ["mc", "spacingmark"]), ("Me", ["me", "enclosingmark"]),
    ("Mn", ["mn", "nonspacingmark"]), ("Nd", ["nd", "decimalnumber", "digit"]),
    ("Nl", ["nl", "letternumber"]), ("No", ["no", "othernumber"]),
    ("Pc", ["pc", "connectorpunctuation"]), ("Pd", ["pd", "dashpunctuation"]),
    ("Pe", ["pe", "closepunctuation"]), ("Pf", ["pf", "finalpunctuation"]),
    ("Pi", ["pi", "initialpunctuation"]), ("Po", ["po", "otherpunctuation"]),
    ("Ps", ["ps", "openpunctuation"]), ("Sc", ["sc", "currencysymbol"]),
    ("Sk", ["sk", "modifiersymbol"]), ("Sm", ["sm", "mathsymbol"]), ("So", ["so", "othersymbol"]),
    ("Zl", ["zl", "lineseparator"]), ("Zp", ["zp", "paragraphseparator"]),
    ("Zs", ["zs", "spaceseparator"])]

/-- The set of a general category or of a group of them. No character is a surrogate, so that
category cannot be asked for. -/
def categorySet? (name : String) : Option CharSet :=
  match name with
  | "any" => some .all
  | "ascii" => some (.range '\x00' '\x7f')
  | "assigned" => some (CharCategory.having (· != .unassigned))
  | "lc" | "casedletter" =>
    some (CharCategory.having fun category =>
      category matches .lowercaseLetter | .titlecaseLetter | .uppercaseLetter)
  | _ => do
    let (code, _) ← categoryNames.find? fun entry => entry.2.contains name
    return CharCategory.having fun category => category.code.startsWith code

def script? (name : String) : Option Script :=
  Script.all.find? fun script =>
    (script.code :: script.names).any fun other => comparedName other.toList == name

/-- The age with a name such as `6.0` or `v60`. -/
def ageSet? (name : String) : Option CharSet := do
  let (version, _) ← Age.additions.find? fun (version, _) =>
    name == version || name == "v" ++ String.ofList (version.toList.filter (· != '.'))
  Age.chars? version

/-- The set of a name alone. Properties come before categories, and those before scripts, but for
three short names that only mean categories. -/
def namedSet? (name : List Char) : Option CharSet :=
  let name := comparedName name
  (if ["cf", "sc", "lc"].contains name then none else CharProperty.ofName? name)
    <|> categorySet? name
    <|> (script? name).map (·.chars)

/-- The set of a property and its value. -/
def valueSet? (property value : List Char) : Option CharSet :=
  let value := comparedName value
  match comparedName property with
  | "generalcategory" | "gc" => categorySet? value
  | "script" | "sc" => (script? value).map (·.chars)
  | "scriptextensions" | "scx" => (script? value).map (·.users)
  | "age" => ageSet? value
  | "graphemeclusterbreak" | "gcb" => Segment.grapheme? value
  | "wordbreak" | "wb" => Segment.word? value
  | "sentencebreak" | "sb" => Segment.sentence? value
  | _ => none

/-- A text at the first place where a mark stands in it: what is before, and what is after. -/
def splitAtMark? (mark : List Char) : List Char → Option (List Char × List Char)
  | [] => none
  | c :: rest =>
    match Text.after? mark (c :: rest) with
    | some after => some ([], after)
    | none => (splitAtMark? mark rest).map fun (before, after) => (c :: before, after)

/-- The set that a text between braces asks for: a name, or a property and its value. The marks
between these two all mean the same. -/
def askedSet? (text : List Char) : Option CharSet :=
  match splitAtMark? ['!', '='] text with
  | some (property, value) => valueSet? property value
  | none =>
    match splitAtMark? [':'] text with
    | some (property, value) => valueSet? property value
    | none =>
      match splitAtMark? ['='] text with
      | some (property, value) => valueSet? property value
      | none => namedSet? text

end ComponentCompiler.Pattern
