import DumpCheck.Text.Basic

/-!
# Terminal texts

Some characters of a text are not shown by a terminal but steer it: control characters, and the
sequences that an escape character begins. `Terminal.styled` writes such sequences, and
`Terminal.visible` is what is left of a text without them.
-/

namespace DumpCheck
namespace Terminal

/-- A text between the sequence that sets a style, by its number, and the one that takes it back. -/
def styled (style : Text) (t : Text) : Text :=
  "\x1b[".toList ++ style ++ 'm' :: t ++ "\x1b[0m".toList

def bold (t : Text) : Text := styled ['1'] t

/-- Where one stands between two characters of a text. -/
inductive State
  | outside
  /-- Behind an escape character. -/
  | escape
  /-- Behind an escape character and marks that need one more character. -/
  | marked
  /-- Behind an opening bracket, among the numbers of a sequence. -/
  | numbers
  /-- Behind a closing bracket, in a command that a bell ends. -/
  | command
  /-- Among the numbers in front of a string for a device. -/
  | device
  | string
  deriving Repr, DecidableEq

/-- Control characters that are shown: tab, line feed, form feed and carriage return. -/
def isSpacing (c : Char) : Bool :=
  "\t\n\x0c\r".toList.contains c

/-- A character is shown outside of any sequence. -/
def isShown (c : Char) : Bool :=
  isSpacing c || (' ' ≤ c && c ≠ '\x7f')

namespace State

/-- The state behind a character that belongs to a sequence. -/
def within : State → Char → State
  | .escape, c =>
    if ' ' ≤ c && c ≤ '/' then .marked
    else if c = '[' then .numbers
    else if c = ']' then .command
    else if c = 'P' then .device
    else if c = 'X' || c = '^' || c = '_' then .string
    else if '0' ≤ c && c ≤ '~' then .outside
    else .escape
  | .marked, c => if '0' ≤ c && c ≤ '~' then .outside else .marked
  | .numbers, c => if '@' ≤ c && c ≤ '~' then .outside else .numbers
  | .command, c => if c = '\x07' then .outside else .command
  | .device, c => if '@' ≤ c && c ≤ '~' then .string else .device
  | .string, c => if (String.utf8EncodeChar c).contains 0x9C then .outside else .string
  | .outside, _ => .outside

/-- A character that spaces a line breaks off a sequence in this state. -/
def isBroken : State → Bool
  | .escape | .marked | .numbers => true
  | .outside | .command | .device | .string => false

/-- The state behind a character, and whether the character is shown. -/
def next (s : State) (c : Char) : State × Bool :=
  if c = '\x1b' then (.escape, false)
  else if c = '\x18' || c = '\x1a' then (.outside, false)
  else if s = .outside then (.outside, isShown c)
  else if s.isBroken && isSpacing c then (.outside, true)
  else (s.within c, false)

end State

/-- What is shown of a text that begins in a state. -/
def visibleFrom : State → Text → Text
  | _, [] => []
  | s, c :: rest => (if (s.next c).2 then [c] else []) ++ visibleFrom (s.next c).1 rest

def visible (t : Text) : Text :=
  visibleFrom .outside t

end Terminal
end DumpCheck
