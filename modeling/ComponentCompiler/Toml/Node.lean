import ComponentCompiler.Toml.Basic

/-!
# Building tables from keys

The lines of a document extend tables step by step. A table comes from a header of its own, from
a longer header, which leaves it open for its own one, or from a key with dots. A value is set
once, a header stands once, keys with dots extend only tables made by such keys, and nothing
extends a value that is written as a whole.
-/

namespace ComponentCompiler.Toml

/-- A table under construction, or a value. -/
inductive Node where
  | value (value : Toml)
  /-- A table; it is `implied` until a header of its own stands, and `dotted` if keys with dots
  made it. -/
  | table (implied dotted : Bool) (entries : List (String × Node))
  /-- The tables of one repeated header. -/
  | tables (items : List (List (String × Node)))
  deriving Inhabited

namespace Node

/-- The entries of a table under construction. -/
abbrev Entries := List (String × Node)

/-- Puts a node at a key that is there already. -/
def replace (key : String) (node : Node) (entries : Entries) : Entries :=
  entries.map fun entry => if entry.1 == key then (key, node) else entry

/-- Changes the table at a path. With `dotted` the path is part of a key with dots. The change
sees whether the table is a dotted one. -/
def within (dotted : Bool) (change : Bool → Entries → Option Entries) :
    List String → (isDotted : Bool) → Entries → Option Entries
  | [], isDotted, entries => change isDotted entries
  | key :: path, _, entries =>
    match Keyed.get? key entries with
    | none => do
      let inner ← within dotted change path dotted []
      return entries ++ [(key, table true dotted inner)]
    | some (table implied isDotted inner) =>
      if dotted && !implied then
        none
      else do
        let inner ← within dotted change path isDotted inner
        return replace key (table implied isDotted inner) entries
    | some (tables items) => do
      let last ← items.getLast?
      let inner ← within dotted change path false last
      return replace key (tables (items.dropLast ++ [inner])) entries
    | some (value _) => none

/-- Sets a value at a key with dots, relative to a table. -/
def assign (path : List String) (key : String) (node : Toml) (entries : Entries) :
    Option Entries :=
  within true (fun isDotted entries =>
    if isDotted == path.isEmpty || (Keyed.get? key entries).isSome then
      none
    else
      some (entries ++ [(key, value node)])) path false entries

/-- Opens the table of a header. A table that was implied so far now comes after the other entries
around it. -/
def openTable (path : List String) (key : String) (entries : Entries) : Option Entries :=
  within false (fun _ entries =>
    match Keyed.get? key entries with
    | none => some (entries ++ [(key, table false false [])])
    | some (table true false inner) =>
      some ((entries.filter fun entry => entry.1 != key) ++ [(key, table false false inner)])
    | some _ => none) path false entries

/-- Opens one more table of a repeated header. -/
def openRepeated (path : List String) (key : String) (entries : Entries) : Option Entries :=
  within false (fun _ entries =>
    match Keyed.get? key entries with
    | none => some (entries ++ [(key, tables [[]])])
    | some (tables items) => some (replace key (tables (items ++ [[]])) entries)
    | some _ => none) path false entries

mutual

/-- The value that a node stands for. -/
def toToml : Node → Toml
  | value v => v
  | table _ _ entries => .table (entriesToToml entries)
  | tables items => .array (itemsToToml items)

def entriesToToml : List (String × Node) → List (String × Toml)
  | [] => []
  | (key, node) :: rest => (key, toToml node) :: entriesToToml rest

def itemsToToml : List (List (String × Node)) → List Toml
  | [] => []
  | entries :: rest => .table (entriesToToml entries) :: itemsToToml rest

end

end Node
end ComponentCompiler.Toml
