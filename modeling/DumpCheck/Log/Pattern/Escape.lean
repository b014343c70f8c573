import DumpCheck.Log.Pattern.Flags
import DumpCheck.Text.Hex

/-!
# Escapes of patterns

What stands behind a backslash. There are no properties of characters, and no earlier groups to come back
to; what depends on the word characters of all scripts is there for bytes only.
-/

namespace DumpCheck
namespace Pattern

/-- What a backslash and the signs behind it stand for. -/
inductive Escape where
  | char (c : Char)
  /-- The digits, the blanks or the word characters of ASCII. -/
  | charSet
  /-- The beginning or the end of the text. -/
  | edge
  /-- The beginning or the end of a word, or everywhere else. -/
  | wordEdge
  deriving Repr, DecidableEq

namespace Escape

/-- The letters that stand for a control character. -/
def controls : List (Char × Char) :=
  [('a', '\x07'), ('f', '\x0c'), ('n', '\n'), ('r', '\r'), ('t', '\t'), ('v', '\x0b')]

/-- The character whose number has `n` more digits after `digits`, the last one first, and what follows. -/
def numbered? (f : Flags) : (n : Nat) → (digits : Text) → Text → Option (Char × Text)
  | 0, digits, t => (Hex.char? digits.reverse).map (·, t)
  | n + 1, digits, t =>
    match f.skip t with
    | c :: rest => numbered? f n (c :: digits) rest
    | [] => none

/-- A character by its letter or, if it is an ASCII sign, by itself. -/
def single? (c : Char) : Option Char :=
  match controls.lookup c with
  | some control => some control
  | none => if c.toNat < 0x80 && !c.isAlphanum then some c else none

/-- Reads what stands behind a backslash. Two digits give a byte, and a lone byte beyond ASCII is no
character. -/
def read? (f : Flags) : Text → Option (Escape × Text)
  | [] => none
  | c :: rest =>
    match c with
    | 'x' =>
      match numbered? f 2 [] rest with
      | some (c, rest) => if f.admits c then some (.char c, rest) else none
      | none => none
    | 'u' => (numbered? f 4 [] rest).map fun (c, rest) => (.char c, rest)
    | 'U' => (numbered? f 8 [] rest).map fun (c, rest) => (.char c, rest)
    | 'A' | 'z' => some (.edge, rest)
    | 'b' | 'B' | '<' | '>' => if f.unicode then none else some (.wordEdge, rest)
    | 'd' | 's' | 'w' => if f.unicode then none else some (.charSet, rest)
    | c => (single? c).map fun c => (.char c, rest)

end Escape
end Pattern
end DumpCheck
