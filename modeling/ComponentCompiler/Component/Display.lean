import ComponentCompiler.Component.Basic
import ComponentCompiler.Json.Printer
import ComponentCompiler.Text.Property

/-!
# Showing a component in the journal

A parsed component is shown in one line, with every part under its name. Texts are quoted, and
characters that would not be seen are shown by their numbers.
-/

namespace ComponentCompiler

namespace Display

/-- The characters that are seen neither on their own nor as they stand: those of invisible
categories, and those that become part of the character before them. -/
def unseen : CharSet :=
  ((CharCategory.having (·.isInvisible)).union CharProperty.graphemeExtend).difference
    (CharCategory.newerVisible.union (.single ' '))

/-- Whether a character is shown by its number. -/
def isUnseen (c : Char) : Bool := !(' ' ≤ c && c ≤ '~') && unseen.holds c

/-- The characters with an escape of their own. -/
def shortEscapes : List (Char × Char) :=
  [('\x00', '0'), ('\t', 't'), ('\n', 'n'), ('\r', 'r'), ('"', '"'), ('\\', '\\')]

def escapeChar (c : Char) : List Char :=
  match shortEscapes.find? fun entry => entry.1 == c with
  | some (_, letter) => ['\\', letter]
  | none =>
    if isUnseen c then
      ['\\', 'u', '{'] ++ Nat.toDigits 16 c.toNat ++ ['}']
    else
      [c]

def quoted (s : String) : String := String.ofList ('"' :: s.toList.flatMap escapeChar ++ ['"'])

/-- A list between two brackets. -/
def bracketed (opening closing : String) (items : List String) : String :=
  opening ++ String.intercalate ", " items ++ closing

/-- A named record of named parts. -/
def record (name : String) (parts : List (String × String)) : String :=
  bracketed (name ++ " \x7b ") " \x7d" (parts.map fun part => part.1 ++ ": " ++ part.2)

def option : Option String → String
  | none => "None"
  | some s => "Some(" ++ s ++ ")"

def text? (s : Option String) : String := option (s.map quoted)

mutual

def json : Json → String
  | .null => "Null"
  | .bool b => "Bool(" ++ String.ofList (Json.boolChars b) ++ ")"
  | .integer i => "Number(" ++ String.ofList (Json.integerChars i) ++ ")"
  | .float x => "Number(" ++ String.ofList (Json.floatChars x) ++ ")"
  | .text s => "String(" ++ quoted s ++ ")"
  | .array items => bracketed "Array [" "]" (jsonItems items)
  | .object members => bracketed "Object \x7b" "\x7d" (jsonMembers members)

def jsonItems : List Json → List String
  | [] => []
  | item :: rest => json item :: jsonItems rest

def jsonMembers : List (String × Json) → List String
  | [] => []
  | (key, value) :: rest => (quoted key ++ ": " ++ json value) :: jsonMembers rest

end

def kind : BlockKind → String
  | .template => "Template"
  | .script => "Script"
  | .style => "Style"

def block (b : Block) : String :=
  record "Block" [("kind", kind b.kind), ("content", quoted b.content), ("src", text? b.src),
    ("lang", text? b.lang), ("attrs", bracketed "\x7b" "\x7d" (jsonMembers b.attributes)),
    ("start", toString b.start), ("end", toString b.stop)]

/-- A parsed component whose script was not compiled yet. -/
def descriptor (d : Descriptor) : String :=
  record "Descriptor" [("template", option (d.template.map block)),
    ("script", option (d.script.map block)), ("script_setup", option (d.scriptSetup.map block)),
    ("styles", bracketed "[" "]" (d.styles.map block)),
    ("compiled_script", "OnceCell(<uninit>)")]

end Display
end ComponentCompiler
