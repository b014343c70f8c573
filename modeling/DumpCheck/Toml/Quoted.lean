import DumpCheck.Toml.Scalar

/-!
# Strings of TOML

The four kinds of strings: between single or triple quotes, with escapes (`"`) or without (`'`). Each
reader starts behind the opening quotes, and gives the text of the string and what follows it.
-/

namespace DumpCheck
namespace Toml
namespace Quoted

/-- The characters that stand for themselves: no control character but the tab. -/
def isPlain (c : Char) : Bool :=
  c = '\t' || (0x20 ≤ c.toNat && c.toNat ≠ 0x7F)

/-- The character that a letter behind a backslash stands for. -/
def escaped? : Char → Option Char
  | 'b' => some '\x08'
  | 'e' => some '\x1B'
  | 't' => some '\t'
  | 'n' => some '\n'
  | 'f' => some '\x0C'
  | 'r' => some '\r'
  | '"' => some '"'
  | '\\' => some '\\'
  | _ => none

/-- Puts a character in front of a string that was read behind it. -/
def push (c : Option Char) (later : Option (Text × Text)) : Option (Text × Text) := do
  let c ← c
  let (t, rest) ← later
  some (c :: t, rest)

/-- A string with escapes on one line. -/
def basic : Text → Option (Text × Text)
  | [] => none
  | '"' :: rest => some ([], rest)
  | '\\' :: 'x' :: a :: b :: rest => push (Hex.char? [a, b]) (basic rest)
  | '\\' :: 'u' :: a :: b :: c :: d :: rest => push (Hex.char? [a, b, c, d]) (basic rest)
  | '\\' :: 'U' :: a :: b :: c :: d :: e :: f :: g :: h :: rest =>
    push (Hex.char? [a, b, c, d, e, f, g, h]) (basic rest)
  | '\\' :: c :: rest => push (escaped? c) (basic rest)
  | c :: rest => push (if isPlain c then some c else none) (basic rest)

/-- A string without escapes on one line. -/
def literal : Text → Option (Text × Text)
  | [] => none
  | '\'' :: rest => some ([], rest)
  | c :: rest => push (if isPlain c then some c else none) (literal rest)

/-- A text begins with spaces and tabs and then a line break. -/
def lineEnds (t : Text) : Bool :=
  match t.dropWhile fun c => c = ' ' || c = '\t' with
  | '\n' :: _ => true
  | '\r' :: '\n' :: _ => true
  | _ => false

/-- A string with escapes on any number of lines. Up to two quotes may stand directly before the three
that close it. A backslash at the end of a line takes away the break and all blanks behind it; `skip`
says that such blanks are being passed. -/
def basicLines (skip : Bool) : Text → Option (Text × Text)
  | [] => none
  | '"' :: '"' :: '"' :: '"' :: '"' :: rest => some (['"', '"'], rest)
  | '"' :: '"' :: '"' :: '"' :: rest => some (['"'], rest)
  | '"' :: '"' :: '"' :: rest => some ([], rest)
  | '\r' :: '\n' :: rest =>
    if skip then basicLines true rest else push '\r' (push '\n' (basicLines false rest))
  | '\n' :: rest => if skip then basicLines true rest else push '\n' (basicLines false rest)
  | '\\' :: 'x' :: a :: b :: rest => push (Hex.char? [a, b]) (basicLines false rest)
  | '\\' :: 'u' :: a :: b :: c :: d :: rest => push (Hex.char? [a, b, c, d]) (basicLines false rest)
  | '\\' :: 'U' :: a :: b :: c :: d :: e :: f :: g :: h :: rest =>
    push (Hex.char? [a, b, c, d, e, f, g, h]) (basicLines false rest)
  | '\\' :: c :: rest =>
    if lineEnds (c :: rest) then basicLines true (c :: rest) else push (escaped? c) (basicLines false rest)
  | c :: rest =>
    if skip && (c = ' ' || c = '\t') then basicLines true rest
    else push (if isPlain c then some c else none) (basicLines false rest)

/-- A string without escapes on any number of lines. -/
def literalLines : Text → Option (Text × Text)
  | [] => none
  | '\'' :: '\'' :: '\'' :: '\'' :: '\'' :: rest => some (['\'', '\''], rest)
  | '\'' :: '\'' :: '\'' :: '\'' :: rest => some (['\''], rest)
  | '\'' :: '\'' :: '\'' :: rest => some ([], rest)
  | '\r' :: '\n' :: rest => push '\r' (push '\n' (literalLines rest))
  | '\n' :: rest => push '\n' (literalLines rest)
  | c :: rest => push (if isPlain c then some c else none) (literalLines rest)

/-- A line break directly behind three opening quotes is no part of the string. -/
def dropBreak : Text → Text
  | '\n' :: rest => rest
  | '\r' :: '\n' :: rest => rest
  | t => t

/-- A string on one line, from its opening quote on. -/
def short? : Text → Option (Text × Text)
  | '"' :: rest => basic rest
  | '\'' :: rest => literal rest
  | _ => none

/-- A string of any kind, from its opening quotes on. -/
def any? : Text → Option (Text × Text)
  | '"' :: '"' :: '"' :: rest => basicLines false (dropBreak rest)
  | '\'' :: '\'' :: '\'' :: rest => literalLines (dropBreak rest)
  | t => short? t

end Quoted
end Toml
end DumpCheck
