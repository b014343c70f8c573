import DumpCheck.Text.Basic

/-!
# Compact JSON

Writers for the JSON values that reports are made of. Nothing is written between the parts of a
value, and an object keeps its fields in the order in which they are given.
-/

namespace DumpCheck
namespace Json

/-- A quote, a backslash and the control characters below U+0020 are escaped, by a letter where JSON
has one and by four lowercase hexadecimal digits where it has none. -/
def escape (c : Char) : Text :=
  if c = '"' then ['\\', '"']
  else if c = '\\' then ['\\', '\\']
  else if c = '\n' then ['\\', 'n']
  else if c = '\r' then ['\\', 'r']
  else if c = '\t' then ['\\', 't']
  else if c = '\x08' then ['\\', 'b']
  else if c = '\x0C' then ['\\', 'f']
  else if c.toNat < 0x20 then
    ['\\', 'u', '0', '0', Nat.digitChar (c.toNat / 16), Nat.digitChar (c.toNat % 16)]
  else [c]

def string (t : Text) : Text :=
  '"' :: t.flatMap escape ++ ['"']

def number (n : Nat) : Text :=
  .ofNat n

def bool (b : Bool) : Text :=
  if b then "true".toList else "false".toList

/-- The values with a comma between each two. -/
def commaSeparated (values : List Text) : Text :=
  [','].intercalate values

def array (values : List Text) : Text :=
  '[' :: commaSeparated values ++ [']']

def field (name : Text) (value : Text) : Text :=
  string name ++ ':' :: value

/-- An object of named values that are already written out. -/
def object (fields : List (Text × Text)) : Text :=
  '{' :: commaSeparated (fields.map fun (name, value) => field name value) ++ ['}']

end Json
end DumpCheck
