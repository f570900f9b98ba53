import ComponentCompiler.Text.Blank

/-!
# Lines and separators

Texts are cut at a separator into pieces, one more than there are separators, and put together
again. The line view for display drops an empty last piece and one carriage return before each
line feed. Main statements: joining the pieces gives the text back, and their number is one more
than the number of separators.
-/

namespace ComponentCompiler.Text

/-- The pieces of a text between the separators; there is always at least one. The text may be one
of characters or of bytes. -/
def pieces {α : Type} [DecidableEq α] (separator : α) : List α → List (List α)
  | [] => [[]]
  | c :: rest =>
    if c = separator then
      [] :: pieces separator rest
    else
      match pieces separator rest with
      | [] => [[c]]
      | first :: more => (c :: first) :: more

/-- Puts texts together with a separator between neighbours. -/
def joined (separator : List Char) : List (List Char) → List Char
  | [] => []
  | [s] => s
  | s :: t :: rest => s ++ separator ++ joined separator (t :: rest)

/-- The number of line feeds. -/
def newlines (s : List Char) : Nat := s.count '\n'

/-- Drops one carriage return at the end. -/
def dropReturn (line : List Char) : List Char :=
  if line.getLast? = some '\r' then line.dropLast else line

/-- The lines of pieces that were cut at line feeds: what stands before a line feed loses one
carriage return, and an empty rest is no line. -/
def linesOfPieces : List (List Char) → List (List Char)
  | [] => []
  | [last] => if last.isEmpty then [] else [last]
  | line :: next :: rest => dropReturn line :: linesOfPieces (next :: rest)

def lines (s : List Char) : List (List Char) := linesOfPieces (pieces '\n' s)

/-- Whether `part` starts `s`, and what follows it. -/
def after? : (part s : List Char) → Option (List Char)
  | [], s => some s
  | _ :: _, [] => none
  | p :: part, c :: s => if p = c then after? part s else none

/-- Whether `part` occurs in `s`. -/
def occursIn (part : List Char) : List Char → Bool
  | [] => part.isEmpty
  | c :: s => part.isPrefixOf (c :: s) || occursIn part s

/-- Replaces the first occurrence of `part`. -/
def replaceFirst (part replacement : List Char) : List Char → List Char
  | [] => if part.isEmpty then replacement else []
  | c :: s =>
    match after? part (c :: s) with
    | some rest => replacement ++ rest
    | none => c :: replaceFirst part replacement s

theorem pieces_ne_nil (separator : Char) (s : List Char) : pieces separator s ≠ [] := by
  induction s with
  | nil => simp [pieces]
  | cons c rest ih =>
    simp only [pieces]
    split
    · simp
    · split <;> simp

theorem length_pieces (separator : Char) (s : List Char) :
    (pieces separator s).length = s.count separator + 1 := by
  induction s with
  | nil => rfl
  | cons c rest ih =>
    simp only [pieces]
    split
    next h => simp [h, ih]
    next h =>
      have hcount : (c :: rest).count separator = rest.count separator :=
        List.count_cons_of_ne h
      split
      next heq => simp [heq] at ih
      next first more heq => simp [heq] at ih; simp [hcount, ih]

theorem joined_pieces (separator : Char) (s : List Char) :
    joined [separator] (pieces separator s) = s := by
  induction s with
  | nil => rfl
  | cons c rest ih =>
    simp only [pieces]
    split
    next h =>
      subst h
      cases hp : pieces c rest with
      | nil => exact absurd hp (pieces_ne_nil c rest)
      | cons first more => simp [joined, ← hp, ih]
    next h =>
      split
      next heq => exact absurd heq (pieces_ne_nil separator rest)
      next first more heq =>
        rw [heq] at ih
        cases more <;> simp_all [joined]

end ComponentCompiler.Text
