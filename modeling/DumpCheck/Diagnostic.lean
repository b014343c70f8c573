import DumpCheck.Terminal

/-!
# Diagnostics

Errors and warnings for people: a word for how bad it is, and a message. On a terminal the line has a
color.
-/

namespace DumpCheck

inductive Severity
  | error | warning
  deriving Repr, DecidableEq

namespace Severity

def label : Severity → Text
  | error => "Error".toList
  | warning => "Warning".toList

/-- The number of the color on a terminal: red or yellow. -/
def color : Severity → Text
  | error => "31".toList
  | warning => "33".toList

def line (s : Severity) (terminal : Bool) (message : Text) : Text :=
  let plain := s.label ++ ": ".toList ++ message
  .line (if terminal then Terminal.styled s.color plain else plain)

end Severity
end DumpCheck
