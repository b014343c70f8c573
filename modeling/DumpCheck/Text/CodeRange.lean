/-!
# Ranges of code points

A property of characters is given by the ranges of code points that have it. `CodeRange.has` looks a
code point up.
-/

namespace DumpCheck
namespace Text

/-- The characters from `first` to `last`. -/
structure CodeRange where
  first : Nat
  last : Nat
  deriving Repr, DecidableEq

/-- One of the ranges holds the code point; the ranges are in increasing order. -/
def CodeRange.has : List CodeRange → Nat → Bool
  | [], _ => false
  | range :: ranges, n => if n < range.first then false else n ≤ range.last || has ranges n

end Text
end DumpCheck
