import DumpCheck.Text.Hex

/-!
# Numbers, booleans and dates of TOML

Only the form of these values matters here: `Scalar.valid` says which words are one of them.
-/

namespace DumpCheck
namespace Toml
namespace Scalar

def isOctDigit (c : Char) : Bool := '0' ≤ c && c ≤ '7'

def isBinDigit (c : Char) : Bool := c = '0' || c = '1'

/-- Each underscore of a word has a digit on either side. -/
def underscoresFit (digit : Char → Bool) (t : Text) : Bool :=
  let pieces := t.splitOn '_'
  let begins := fun piece : Text => (piece.head?.map digit).getD false
  let ends := fun piece : Text => (piece.getLast?.map digit).getD false
  pieces.tail.all begins && pieces.dropLast.all ends

def dropSign : Text → Text
  | '+' :: rest => rest
  | '-' :: rest => rest
  | t => t

/-- What may follow `0x`, `0o` or `0b`: any number of digits. -/
def isNumeralOf (digit : Char → Bool) (t : Text) : Bool :=
  t.all (fun c => digit c || c = '_') && underscoresFit digit t

/-- A decimal numeral with or without a sign, which has no leading zeros. Behind an underscore only the
places next to underscores are looked at, and there any hexadecimal digit will do; but a point or the
letter of an exponent makes it a float. No underscore follows the sign. -/
def isDecimal (t : Text) : Bool :=
  let unsigned := dropSign t
  match unsigned.dropWhile Char.isDigit with
  | [] => unsigned = ['0'] || (unsigned ≠ [] && unsigned.head? ≠ some '0')
  | '_' :: rest =>
    unsigned.head? ≠ some '0' && !rest.any (".eE".toList.contains ·) &&
      underscoresFit Hex.isDigit unsigned
  | _ => false

/-- A decimal numeral, or digits behind `0x`, `0o` or `0b`. -/
def isInteger (t : Text) : Bool :=
  match t with
  | '0' :: 'x' :: rest => isNumeralOf Hex.isDigit rest
  | '0' :: 'o' :: rest => isNumeralOf isOctDigit rest
  | '0' :: 'b' :: rest => isNumeralOf isBinDigit rest
  | _ => isDecimal t

/-- What follows a run of digits and underscores that has at least one digit. -/
def digitRun? (t : Text) : Option Text :=
  let inRun := fun c : Char => c.isDigit || c = '_'
  if (t.takeWhile inRun).any Char.isDigit then some (t.dropWhile inRun) else none

/-- What follows the whole part of a float. Two digits or more do not begin with a zero. -/
def whole? (t : Text) : Option Text :=
  match t with
  | '0' :: rest => if (digitRun? rest).isSome then none else digitRun? t
  | t => digitRun? t

/-- What follows a fraction, if there is one. -/
def fraction? : Text → Option Text
  | '.' :: rest => digitRun? rest
  | t => some t

/-- An exponent or nothing. -/
def endsWithExponent : Text → Bool
  | [] => true
  | c :: rest => (c = 'e' || c = 'E') && digitRun? (dropSign rest) = some []

/-- A numeral with a fraction, an exponent or both; infinity; not a number. -/
def isFloat (t : Text) : Bool :=
  let unsigned := dropSign t
  unsigned = "inf".toList || unsigned = "nan".toList ||
    match whole? unsigned with
    | some (c :: rest) =>
      ((fraction? (c :: rest)).map endsWithExponent).getD false &&
        underscoresFit Char.isDigit unsigned
    | _ => false

def isBoolean (t : Text) : Bool :=
  t = "true".toList || t = "false".toList

/-- The number that exactly `n` decimal digits stand for, and what follows them. -/
def fixedNumber? : (n : Nat) → (value : Nat) → Text → Option (Nat × Text)
  | 0, value, t => some (value, t)
  | n + 1, value, c :: rest =>
    if c.isDigit then fixedNumber? n (10 * value + (c.toNat - '0'.toNat)) rest else none
  | _ + 1, _, [] => none

def daysIn (year month : Nat) : Nat :=
  match month with
  | 2 => if year % 4 = 0 && (year % 100 ≠ 0 || year % 400 = 0) then 29 else 28
  | 4 | 6 | 9 | 11 => 30
  | _ => 31

/-- What follows a date, `year-month-day`. -/
def date? (t : Text) : Option Text := do
  let (year, t) ← fixedNumber? 4 0 t
  let (month, t) ← (['-'].isPrefixOf? t).bind (fixedNumber? 2 0)
  let (day, t) ← (['-'].isPrefixOf? t).bind (fixedNumber? 2 0)
  if 1 ≤ month && month ≤ 12 && 1 ≤ day && day ≤ daysIn year month then some t else none

/-- What follows hours and minutes. -/
def minutes? (t : Text) : Option Text := do
  let (hour, t) ← fixedNumber? 2 0 t
  let (minute, t) ← ([':'].isPrefixOf? t).bind (fixedNumber? 2 0)
  if hour ≤ 23 && minute ≤ 59 then some t else none

/-- What follows a time, `hour:minute`, `hour:minute:second` or the latter with a fraction. There may be a
leap second. -/
def time? (t : Text) : Option Text := do
  let t ← minutes? t
  match t with
  | ':' :: t =>
    let (second, t) ← fixedNumber? 2 0 t
    if second ≤ 60 then
      match t with
      | '.' :: c :: rest => if c.isDigit then some (rest.dropWhile Char.isDigit) else none
      | _ => some t
    else none
  | _ => some t

/-- The distance to universal time and nothing else. -/
def isOffset : Text → Bool
  | ['Z'] => true
  | ['z'] => true
  | '+' :: rest => minutes? rest = some []
  | '-' :: rest => minutes? rest = some []
  | _ => false

/-- A date, a time, or both with or without an offset. -/
def isDateTime (t : Text) : Bool :=
  match date? t with
  | some [] => true
  | some (separator :: rest) =>
    (separator = 'T' || separator = 't' || separator = ' ') &&
      match time? rest with
      | some rest => rest.isEmpty || isOffset rest
      | none => false
  | none => time? t = some []

/-- The word is a number, a boolean or a date. -/
def valid (t : Text) : Bool :=
  isInteger t || isFloat t || isBoolean t || isDateTime t

/-- Such a word goes on up to a blank, a line break, a comment or a mark of the document. -/
def isWordChar (c : Char) : Bool :=
  !" \t\r\n#=,[]\x7b\x7d".toList.contains c

/-- The word at the beginning of a text and what follows it. A date and a time with one space
between them are one word. -/
def splitWord (t : Text) : Text × Text :=
  let word := t.takeWhile isWordChar
  let rest := t.dropWhile isWordChar
  match rest with
  | ' ' :: c :: _ =>
    if date? word = some [] && c.isDigit then
      (word ++ ' ' :: (rest.drop 1).takeWhile isWordChar, (rest.drop 1).dropWhile isWordChar)
    else (word, rest)
  | _ => (word, rest)

end Scalar
end Toml
end DumpCheck
