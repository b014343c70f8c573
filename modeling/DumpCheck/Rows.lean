import DumpCheck.Text.Basic
import Std.Data.TreeMap

/-!
# Rows of a block

Two blocks hold the same rows if one list of rows is a rearrangement of the other. `RowMatch` names
the two ways to find that out, and `Balance` counts what one side has too few or too many of.
-/

namespace DumpCheck

inductive RowMatch
  /-- Sort both sides and compare them in order. -/
  | sorted
  /-- Count how often each row occurs on either side. -/
  | multiset
  deriving Repr, DecidableEq

namespace RowMatch

instance : Inhabited RowMatch := ⟨sorted⟩

def all : List RowMatch := [sorted, multiset]

def name : RowMatch → Text
  | sorted => "sorted".toList
  | multiset => "multiset".toList

/-- The name with a capital, as logs show it. -/
def title : RowMatch → Text
  | sorted => "Sorted".toList
  | multiset => "Multiset".toList

end RowMatch

namespace Rows

/-- Rows in the order of their code points. -/
def sort (rows : List Text) : List Text :=
  rows.mergeSort fun r s => (compare r s).isLE

end Rows

/-- By how much the expected occurrences of a row exceed the actual ones, for the rows where they differ. -/
abbrev Balance := Std.TreeMap Text Int

namespace Balance

/-- Adds `n` to the count of a row. -/
def add (n : Int) (b : Balance) (row : Text) : Balance :=
  b.alter row fun count => some (count.getD 0 + n)

/-- Expected occurrences less actual ones; rows that occur equally often are left out. -/
def ofRows (actual expected : List Text) : Balance :=
  (actual.foldl (add (-1)) (expected.foldl (add 1) ∅)).filter fun _ n => n ≠ 0

/-- The rows that the expected side has in excess, in order, each as often as it is in excess. -/
def missing (b : Balance) : List Text :=
  b.toList.flatMap fun (row, n) => List.replicate n.toNat row

/-- The rows that the actual side has in excess, in order, each as often as it is in excess. -/
def unexpected (b : Balance) : List Text :=
  b.toList.flatMap fun (row, n) => List.replicate (-n).toNat row

end Balance

namespace RowMatch

/-- The rows of one side, in the order in which they are matched. -/
def arrange : RowMatch → List Text → List Text
  | sorted, rows => Rows.sort rows
  | multiset, rows => rows

/-- Arranged rows of the two sides are the same rows, equally often. -/
def agree : RowMatch → (actual expected : List Text) → Bool
  | sorted, actual, expected => actual = expected
  | multiset, actual, expected => (Balance.ofRows actual expected).isEmpty

end RowMatch
end DumpCheck
