import ComponentCompiler.Text.Word
import ComponentCompiler.Toml.Basic

/-!
# Numbers, switches and dates of configuration documents

A plain word is a switch, a date or a number. Underscores stand only between two digits, and
decimal integers have no zeros in front. Integers have 64 bits. A number above the greatest
floating-point number is refused, one below the least is the negative infinity.
-/

namespace ComponentCompiler.Toml

def digitValue (c : Char) : Nat :=
  if Text.isAsciiDigit c then c.toNat - 48
  else if 'a' ≤ c && c ≤ 'f' then c.toNat - 87
  else c.toNat - 55

/-- Whether a character is a digit to a base. -/
def isDigit (base : Nat) (c : Char) : Bool :=
  (Text.isAsciiDigit c || ('a' ≤ c && c ≤ 'f') || ('A' ≤ c && c ≤ 'F')) && digitValue c < base

def numberOf (base : Nat) (digits : List Char) : Nat :=
  digits.foldl (fun n c => base * n + digitValue c) 0

/-- The digits after a digit: more digits, each with at most one underscore before it. -/
def moreDigits (base : Nat) : List Char → List Char × List Char
  | '_' :: c :: s =>
    if isDigit base c then
      let (digits, rest) := moreDigits base s
      (c :: digits, rest)
    else
      ([], '_' :: c :: s)
  | c :: s =>
    if isDigit base c then
      let (digits, rest) := moreDigits base s
      (c :: digits, rest)
    else
      ([], c :: s)
  | [] => ([], [])

/-- At least one digit. -/
def digits? (base : Nat) : List Char → Option (List Char × List Char)
  | c :: s =>
    if isDigit base c then
      let (digits, rest) := moreDigits base s
      some (c :: digits, rest)
    else
      none
  | [] => none

/-- Decimal digits without a zero in front. -/
def wholeDigits? : List Char → Option (List Char × List Char)
  | '0' :: s => some (['0'], s)
  | s => digits? 10 s

/-- A sign, and whether it is a minus. -/
def sign : List Char → Bool × List Char
  | '-' :: s => (true, s)
  | '+' :: s => (false, s)
  | s => (false, s)

def withSign (negative : Bool) (n : Nat) : Int := if negative then -n else n

/-- An integer of 64 bits. -/
def integerOf? (value : Int) : Option Toml :=
  if -2 ^ 63 ≤ value && value < 2 ^ 63 then some (.integer value) else none

/-- An integer to another base than ten. -/
def based? : List Char → Option Toml
  | '0' :: mark :: s => do
    let base ← match mark with
      | 'x' => some 16
      | 'o' => some 8
      | 'b' => some 2
      | _ => none
    let (digits, rest) ← digits? base s
    if rest.isEmpty then integerOf? (numberOf base digits) else none
  | _ => none

/-- A power of ten after an exponent mark. -/
def exponent? : List Char → Option Int
  | c :: s => do
    if c != 'e' && c != 'E' then
      none
    else
      let (negative, s) := sign s
      let (digits, rest) ← digits? 10 s
      if rest.isEmpty then some (withSign negative (numberOf 10 digits)) else none
  | [] => some 0

/-- A finite number from its digits; a negative one that is too large is the infinity. -/
def floatOf? (negative : Bool) (digits : List Char) (power : Int) : Option Toml :=
  match Binary64.ofDecimal? negative (numberOf 10 digits) power with
  | some x => some (.float (.finite x))
  | none => if negative then some (.float (.infinite true)) else none

/-- A decimal number. -/
def number? (word : List Char) : Option Toml := do
  let (negative, s) := sign word
  if s = "inf".toList then
    some (.float (.infinite negative))
  else if s = "nan".toList then
    some (.float (.undefined negative))
  else
    let (whole, rest) ← wholeDigits? s
    match rest with
    | [] => integerOf? (withSign negative (numberOf 10 whole))
    | '.' :: rest =>
      let (fraction, rest) ← digits? 10 rest
      let power ← exponent? rest
      floatOf? negative (whole ++ fraction) (power - fraction.length)
    | rest =>
      let power ← exponent? rest
      floatOf? negative whole power

/-- A number of a fixed count of digits in a closed range. -/
def numberField? (count low high : Nat) (s : List Char) : Option (Nat × List Char) :=
  let digits := s.take count
  let n := numberOf 10 digits
  if digits.length = count && digits.all Text.isAsciiDigit && low ≤ n && n ≤ high then
    some (n, s.drop count)
  else
    none

def isLeapYear (year : Nat) : Bool := year % 4 == 0 && (year % 100 != 0 || year % 400 == 0)

def daysIn (year month : Nat) : Nat :=
  if month = 2 then (if isLeapYear year then 29 else 28)
  else if month = 4 ∨ month = 6 ∨ month = 9 ∨ month = 11 then 30
  else 31

/-- Reads one fixed character. -/
def mark? (c : Char) : List Char → Option (List Char)
  | d :: s => if c = d then some s else none
  | [] => none

def day? (s : List Char) : Option ((Nat × Nat × Nat) × List Char) := do
  let (year, s) ← numberField? 4 0 9999 s
  let (month, s) ← numberField? 2 1 12 (← mark? '-' s)
  let (day, s) ← numberField? 2 1 (daysIn year month) (← mark? '-' s)
  return ((year, month, day), s)

/-- A fraction of a second in nanoseconds; further digits are dropped. -/
def fraction? : List Char → Option (Nat × List Char)
  | '.' :: s =>
    match s.span Text.isAsciiDigit with
    | ([], _) => none
    | (digits, rest) =>
      let kept := digits.take 9
      some (numberOf 10 kept * 10 ^ (9 - kept.length), rest)
  | s => some (0, s)

/-- A time of day up to a last hour. -/
def time? (lastHour : Nat) (s : List Char) :
    Option ((Nat × Nat × Nat × Nat) × List Char) := do
  let (hour, s) ← numberField? 2 0 lastHour s
  let (minute, s) ← numberField? 2 0 59 (← mark? ':' s)
  let (second, s) ← numberField? 2 0 60 (← mark? ':' s)
  let (nanosecond, s) ← fraction? s
  return ((hour, minute, second, nanosecond), s)

/-- The distance from universal time, if there is one: an hour and a minute up to given ones, and
no more than a day together. -/
def offset? (lastHour lastMinute : Nat) : List Char → Option (Option (Option Int))
  | [] => some none
  | ['Z'] => some (some none)
  | ['z'] => some (some none)
  | c :: s => do
    if c != '+' && c != '-' then
      none
    else
      let (hour, s) ← numberField? 2 0 lastHour s
      let (minute, s) ← numberField? 2 0 lastMinute (← mark? ':' s)
      let minutes := 60 * hour + minute
      if s.isEmpty && minutes ≤ 24 * 60 then some (some (some (withSign (c == '-') minutes)))
      else none

/-- What stands between a day and a time. -/
def isTimeMark (c : Char) : Bool := c == 'T' || c == 't' || c == ' '

/-- A day, a time, or both. -/
def date? (word : List Char) : Option TomlDate :=
  match day? word with
  | some (day, []) => some ⟨some day, none, none⟩
  | some (day, c :: rest) => do
    if isTimeMark c then
      let (time, rest) ← time? 23 rest
      return ⟨some day, some time, ← offset? 23 59 rest⟩
    else
      none
  | none => do
    let (time, rest) ← time? 23 word
    if rest.isEmpty then some ⟨none, some time, none⟩ else none

/-- A date in a text. Here a day without a time may have a distance too, a day may end with its
24th hour, and the minutes of a distance may be more than an hour. -/
def dateOfText? (s : List Char) : Option TomlDate :=
  match day? s with
  | some (day, c :: rest) => do
    if isTimeMark c then
      let (time, rest) ← time? 24 rest
      return ⟨some day, some time, ← offset? 99 99 rest⟩
    else
      return ⟨some day, none, ← offset? 99 99 (c :: rest)⟩
  | some (day, []) => some ⟨some day, none, none⟩
  | none => do
    let (time, rest) ← time? 24 s
    if rest.isEmpty then some ⟨none, some time, none⟩ else none

/-- The value of a plain word. -/
def scalar? (word : List Char) : Option Toml :=
  if word = "true".toList then some (.boolean true)
  else if word = "false".toList then some (.boolean false)
  else ((date? word).map .date).orElse fun _ => (based? word).orElse fun _ => number? word

def isWordChar (c : Char) : Bool :=
  Text.isAsciiWord c || c == '-' || c == '+' || c == '.' || c == ':'

/-- A plain word at the start of a text. A blank between a day and a time belongs to the word. -/
def word (s : List Char) : List Char × List Char :=
  let (first, rest) := s.span isWordChar
  match day? first, rest with
  | some (_, []), ' ' :: a :: b :: ':' :: rest =>
    if Text.isAsciiDigit a && Text.isAsciiDigit b then
      let (second, rest) := rest.span isWordChar
      (first ++ ' ' :: a :: b :: ':' :: second, rest)
    else
      (first, ' ' :: a :: b :: ':' :: rest)
  | _, rest => (first, rest)

end ComponentCompiler.Toml
