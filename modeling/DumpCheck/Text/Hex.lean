import DumpCheck.Text.Basic

/-!
# Hexadecimal numbers

Characters that are written by their number.
-/

namespace DumpCheck
namespace Hex

def isDigit (c : Char) : Bool :=
  c.isDigit || ('a' ≤ c && c ≤ 'f') || ('A' ≤ c && c ≤ 'F')

def digitValue (c : Char) : Nat :=
  if c.isDigit then c.toNat - '0'.toNat
  else if 'a' ≤ c then c.toNat - 'a'.toNat + 10
  else c.toNat - 'A'.toNat + 10

/-- The character with a hexadecimal number, unless it is a surrogate or beyond the last one. -/
def char? (ds : Text) : Option Char :=
  let n := ds.foldl (fun n c => 16 * n + digitValue c) 0
  if ds.all isDigit && n.isValidChar then some (Char.ofNat n) else none

end Hex
end DumpCheck
