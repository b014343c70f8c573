/-!
# Heights of patterns

A pattern must not be nested too deeply. `height` is the height of a part that consists of other parts.
-/

namespace DumpCheck
namespace Pattern

/-- The height of a row of parts: two or more of them are one level above the highest. -/
def height : List Nat → Nat
  | [] => 0
  | [h] => h
  | hs => hs.foldl max 0 + 1

/-- No pattern is higher. -/
def maxHeight : Nat := 250

end Pattern
end DumpCheck
