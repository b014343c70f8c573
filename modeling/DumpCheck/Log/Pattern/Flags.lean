import DumpCheck.Text.Blank

/-!
# Flags of patterns

Letters behind a question mark, as in `(?i-u)`, say how what follows is read. Three of them bear on whether
a text is a pattern at all, and `Flags` holds these.
-/

namespace DumpCheck
namespace Pattern

/-- How a part of a pattern is read. -/
structure Flags where
  /-- Letters stand for both of their cases. -/
  caseless : Bool
  /-- The pattern is about characters, and otherwise about bytes. -/
  unicode : Bool
  /-- Blanks and comments mean nothing. -/
  spaced : Bool
  deriving Repr, DecidableEq

namespace Flags

/-- At the beginning of a pattern. -/
def initial : Flags := ⟨false, true, false⟩

/-- Switches the flag of a letter on or off. -/
def switch (on : Bool) (f : Flags) : Char → Flags
  | 'i' => { f with caseless := on }
  | 'u' => { f with unicode := on }
  | 'x' => { f with spaced := on }
  | _ => f

/-- Reads the letters of flags: those in front of a dash are switched on, those behind it off. No sign
stands there twice, and something follows the dash. -/
def change? (f : Flags) (letters : Text) : Option Flags :=
  if letters.all ("imsUuRx-".toList.contains ·) && letters.Nodup && letters.getLast? ≠ some '-' then
    some ((letters.dropWhile (· ≠ '-')).foldl (switch false)
      ((letters.takeWhile (· ≠ '-')).foldl (switch true) f))
  else none

/-- The cases of characters beyond ASCII would be needed, and nothing is known about them. -/
def needsCases (f : Flags) : Bool :=
  f.caseless && f.unicode

/-- A class of characters may have this one: one about bytes holds ASCII only. -/
def admits (f : Flags) (c : Char) : Bool :=
  f.unicode || c.toNat < 0x80

/-- What follows the blanks and comments in front. A comment begins with a number sign and ends with its
line. -/
def afterBlanks (inComment : Bool) : Text → Text
  | [] => []
  | c :: rest =>
    if inComment then afterBlanks (c ≠ '\n') rest
    else if c = '#' then afterBlanks true rest
    else if Text.isBlank c then afterBlanks false rest
    else c :: rest

/-- What follows that which means nothing. -/
def skip (f : Flags) (t : Text) : Text :=
  if f.spaced then afterBlanks false t else t

/-- The character by which a dash in front of the text is judged. In a comment it is the first one that is
no blank. -/
def ahead? (f : Flags) (t : Text) : Option Char :=
  if f.spaced then
    match Text.trimStart t with
    | '#' :: rest => (Text.trimStart rest).head?
    | t => t.head?
  else t.head?

end Flags
end Pattern
end DumpCheck
