/-!
# Blank characters

The blanks are the characters with the Unicode property White_Space. Trimming removes them from
the ends of a text; a text is blank when nothing is left.
-/

namespace ComponentCompiler.Text

/-- Membership of a code point in a list of closed ranges. -/
def inRanges (ranges : List (Nat × Nat)) (point : Nat) : Bool :=
  ranges.any fun range => range.1 ≤ point && point ≤ range.2

/-- The code points with the property White_Space. -/
def blankRanges : List (Nat × Nat) :=
  [(0x9, 0xD), (0x20, 0x20), (0x85, 0x85), (0xA0, 0xA0), (0x1680, 0x1680), (0x2000, 0x200A),
    (0x2028, 0x2029), (0x202F, 0x202F), (0x205F, 0x205F), (0x3000, 0x3000)]

def isBlank (c : Char) : Bool := inRanges blankRanges c.toNat

/-- Drops the longest end all of whose elements satisfy `p`. -/
def dropTail (p : α → Bool) (s : List α) : List α := (s.reverse.dropWhile p).reverse

def trimEnd (s : List Char) : List Char := dropTail isBlank s

def trim (s : List Char) : List Char := trimEnd (s.dropWhile isBlank)

/-- A text without a character other than blanks. -/
def isBlankText (s : List Char) : Bool := s.all isBlank

/-- Removes the blanks at both ends of a string. -/
def trimmed (s : String) : String := String.ofList (trim s.toList)

/-- Removes the blanks at the end of a string. -/
def trimmedEnd (s : String) : String := String.ofList (trimEnd s.toList)

theorem isBlank_newline : isBlank '\n' = true := by decide

end ComponentCompiler.Text
