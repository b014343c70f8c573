/-!
# Texts

A text is the list of its characters, so that every rule on texts is a recursion over a list. This
module holds the operations that know nothing about dumps: searching for a piece, decimal numerals
and the UTF-8 form.
-/

namespace DumpCheck

/-- A text is the list of its characters. -/
abbrev Text := List Char

namespace Text

/-- The piece stands somewhere in the text. -/
def occursIn (piece : Text) : Text → Bool
  | [] => piece.isEmpty
  | c :: rest => piece.isPrefixOf (c :: rest) || occursIn piece rest

/-- The decimal numeral of a number, without leading zeros. -/
def ofNat (n : Nat) : Text :=
  Nat.toDigits 10 n

/-- A text as one line of a file: a line feed closes it. -/
def line (t : Text) : Text :=
  t ++ ['\n']

def utf8 (t : Text) : List UInt8 :=
  t.flatMap String.utf8EncodeChar

/-- The text that has these bytes in UTF-8, if there is one. -/
def ofUtf8? (bytes : List UInt8) : Option Text :=
  (String.fromUTF8? ⟨bytes.toArray⟩).map String.toList

end Text
end DumpCheck
