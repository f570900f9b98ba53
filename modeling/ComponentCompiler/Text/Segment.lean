import ComponentCompiler.Text.Property
import ComponentCompiler.Text.Script

/-!
# Breaks between graphemes, words and sentences

Where a text may be broken depends on classes of characters, one classification each for
graphemes, words and sentences. The classes follow from the other properties of characters; the
few exceptions are listed where they apply.
-/

namespace ComponentCompiler.Segment

open CharCategory (chars)
open CharProperty

/-- The characters of a script. -/
def ofScript (code : String) : CharSet :=
  ((Script.all.find? fun script => script.code == code).map (·.chars)).getD .empty

def joiner : CharSet := .ofTable "200d"

/-- Format characters but for spaces and joiners without width. -/
def formats : CharSet :=
  (chars .format).difference (.unions [.ofTable "200b-200d", graphemeExtend])

/-- What extends the character before it, or changes its colour. -/
def extending : CharSet := graphemeExtend.union emojiModifier

/-! ### Graphemes -/

/-- Spacing marks of scripts in which they do not stay with what stands before them. -/
def looseMarks : CharSet := .ofTable
  "102b-102c 1038 1062-1064 1067-106d 1083 1087-108c 108f 109a-109c 1a61 1a63-1a64 aa7b aa7d
    11720-11721"

/-- The Hangul syllables without a closing consonant: every twenty-eighth. -/
def openSyllables : CharSet :=
  ⟨(List.range 399).map fun i => (0xAC00 + 28 * i, 0xAC00 + 28 * i)⟩

def graphemeControl : CharSet :=
  (CharSet.unions [chars .lineSeparator, chars .paragraphSeparator, chars .control, chars .format,
    (chars .unassigned).intersection defaultIgnorable]).difference
    (.unions [.ofTable "a d 200c-200d", prependedConcatenationMark, graphemeExtend])

/-- The class of graphemes with a name, in small letters without marks between words. -/
def grapheme? : String → Option CharSet
  | "cr" => some (.single '\r')
  | "lf" => some (.single '\n')
  | "control" | "cn" => some graphemeControl
  | "extend" | "ex" => some extending
  | "prepend" | "pp" =>
    some (prependedConcatenationMark.union
      (.ofTable "d4e 111c2-111c3 113d1 1193f 11941 11a3a 11a84-11a89 11d46 11f02"))
  | "spacingmark" | "sm" =>
    some (((chars .spacingMark).difference (extending.union looseMarks)).union
      (.ofTable "e33 eb3"))
  | "l" => some (.ofTable "1100-115f a960-a97c")
  | "v" => some (.ofTable "1160-11a7 d7b0-d7c6 16d63 16d67-16d6a")
  | "t" => some (.ofTable "11a8-11ff d7cb-d7fb")
  | "lv" => some openSyllables
  | "lvt" => some ((CharSet.ofTable "ac00-d7a3").difference openSyllables)
  | "regionalindicator" | "ri" => some regionalIndicator
  | "zwj" => some joiner
  | _ => none

/-! ### Words -/

/-- What extends the character before it in a word. -/
def wordExtend : CharSet := extending.union (chars .spacingMark)

def hebrewLetter : CharSet := (ofScript "Hebr").intersection (chars .otherLetter)

def katakana : CharSet := (ofScript "Kana").union (.ofTable "3031-3035 309b-309c 30a0 30fc ff70")

/-- Letters of scripts that put no spaces between words. -/
def unspaced : CharSet := .ofTable
  "e01-e3a e40-e4e e81-e82 e84 e86-e8a e8c-ea3 ea5 ea7-ebd ec0-ec4 ec6 ec8-ece edc-edf 1000-103f
    1050-108f 109a-109f 1780-17d3 17d7 17dc-17dd 1950-196d 1970-1974 1980-19ab 19b0-19c9 19da
    19de-19df 1a20-1a5e 1a60-1a7c 1aa0-1aad a9e0-a9ef a9fa-a9fe aa60-aac2 aadb-aadf 11700-1171a
    1171d-1172b 1173a-1173b 1173f-11746"

/-- Signs that count as letters of words though they are not alphabetic. -/
def letterSigns : CharSet := .ofTable
  "2c2-2c5 2d2-2d7 2de-2df 2e5-2eb 2ed 2ef-2ff 55a-55c 55e 58a 5f3 70f a708-a716 a720-a721
    a789-a78a ab5b"

def wordLetter : CharSet :=
  (alphabetic.union letterSigns).difference
    (.unions [ideographic, katakana, hebrewLetter, unspaced, ofScript "Hira", wordExtend])

/-- The signs before Arabic numbers and the like, which belong to the number. -/
def numberSigns : CharSet := prependedConcatenationMark.difference (.ofTable "70f")

/-- The class of words with a name, in small letters without marks between words. -/
def word? : String → Option CharSet
  | "cr" => some (.single '\r')
  | "lf" => some (.single '\n')
  | "newline" | "nl" => some (.ofTable "b-c 85 2028-2029")
  | "extend" => some wordExtend
  | "zwj" => some joiner
  | "format" | "fo" => some (formats.difference prependedConcatenationMark)
  | "katakana" | "ka" => some katakana
  | "hebrewletter" | "hl" => some hebrewLetter
  | "aletter" | "le" => some wordLetter
  | "singlequote" | "sq" => some (.single '\'')
  | "doublequote" | "dq" => some (.single '"')
  | "midnumlet" | "mb" => some midNumLet
  | "midletter" | "ml" => some midLetter
  | "midnum" | "mn" =>
    some (.ofTable "2c 3b 37e 589 60c-60d 66c 7f8 2044 fe10 fe14 fe50 fe54 ff0c ff1b")
  | "numeric" | "nu" => some (.unions [chars .decimalNumber, .ofTable "66b", numberSigns])
  | "extendnumlet" | "ex" => some ((chars .connectorPunctuation).union (.ofTable "202f"))
  | "wsegspace" => some (.ofTable "20 1680 2000-2006 2008-200a 205f 3000")
  | "regionalindicator" | "ri" => some regionalIndicator
  | _ => none

/-! ### Sentences -/

def sentenceExtend : CharSet := .unions [graphemeExtend, chars .spacingMark, joiner]

/-- Capitals in lists only, which start no sentence. -/
def headingLetters : CharSet := .ofTable "1c90-1cba 1cbd-1cbf"

def sentenceLower : CharSet :=
  lowercase.difference (graphemeExtend.union (.ofTable "10d0-10fa 10fd-10ff"))

def sentenceUpper : CharSet :=
  (uppercase.union (chars .titlecaseLetter)).difference headingLetters

def fullStops : CharSet := .ofTable "2e 2024 fe52 ff0e"

/-- The class of sentences with a name, in small letters without marks between words. -/
def sentence? : String → Option CharSet
  | "cr" => some (.single '\r')
  | "lf" => some (.single '\n')
  | "extend" | "ex" => some sentenceExtend
  | "sep" | "se" => some (.ofTable "85 2028-2029")
  | "format" | "fo" =>
    some ((formats.union (.ofTable "200b")).difference prependedConcatenationMark)
  | "sp" => some (.ofTable "9 b-c 20 a0 1680 2000-200a 202f 205f 3000")
  | "lower" | "lo" => some sentenceLower
  | "upper" | "up" => some sentenceUpper
  | "oletter" | "le" =>
    some ((CharSet.unions [alphabetic, .ofTable "5f3 70f"]).difference
      (.unions [sentenceLower, sentenceUpper, sentenceExtend]))
  | "numeric" | "nu" => some (.unions [chars .decimalNumber, .ofTable "66b-66c", numberSigns])
  | "aterm" | "at" => some fullStops
  | "scontinue" | "sc" =>
    some (.ofTable "2c-2d 3a 55d 60c-60d 7f8 1802 1808 2013-2014 3001 fe10-fe11 fe13 fe31-fe32
      fe50-fe51 fe55 fe58 fe63 ff0c-ff0d ff1a ff64")
  | "sterm" | "st" => some (sentenceTerminal.difference fullStops)
  | "close" | "cl" =>
    some ((CharSet.unions [chars .openPunctuation, chars .closePunctuation,
      chars .initialPunctuation, chars .finalPunctuation,
      .ofTable "22 27 275b-2760 2e00-2e01 2e06-2e08 2e0b 1f676-1f678"]).difference (.ofTable "5f3"))
  | _ => none

end ComponentCompiler.Segment
