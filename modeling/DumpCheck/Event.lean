import DumpCheck.Log.Record

/-!
# Events of a comparison

What a comparison reports on its way to a verdict, and `Logged`, a value together with the events
that led to it.
-/

namespace DumpCheck

/-- One thing that a comparison comes upon. -/
inductive Event
  /-- Two headers have different numbers of columns. -/
  | columnCountDiffers (actual expected : Nat)
  /-- Two labels in the same column differ; they are given as they were written. -/
  | labelDiffers (actual expected : Text)
  /-- The block with this number, counted from one, matched with so many rows. -/
  | blockMatched (query rows : Nat)
  /-- So many rows at the end belong to a block that is never closed. -/
  | tailNotCompared (rows : Nat)
  deriving Repr, DecidableEq

namespace Event

def level : Event → Level
  | columnCountDiffers .. | labelDiffers .. => .warn
  | blockMatched .. | tailNotCompared .. => .debug

/-- The headers speak for themselves; the rest is said by the comparison of blocks. -/
def target : Event → Text
  | columnCountDiffers .. | labelDiffers .. => "resultcheck_compare::header".toList
  | blockMatched .. | tailNotCompared .. => "resultcheck_compare::comparator".toList

def message : Event → Text
  | columnCountDiffers .. => "header column count differs".toList
  | labelDiffers .. => "header label differs".toList
  | blockMatched .. => "query block matched".toList
  | tailNotCompared .. => "unterminated trailing block not compared".toList

def fields : Event → List (Text × Text)
  | columnCountDiffers actual expected =>
    [("actual".toList, .ofNat actual), ("expected".toList, .ofNat expected)]
  | labelDiffers actual expected => [("actual".toList, actual), ("expected".toList, expected)]
  | blockMatched query rows => [("query".toList, .ofNat query), ("rows".toList, .ofNat rows)]
  | tailNotCompared rows => [("rows".toList, .ofNat rows)]

def record (e : Event) : Record :=
  ⟨e.level, e.target, e.message, e.fields⟩

end Event

/-- A value and the events that led to it, in their order. -/
structure Logged (α : Type) where
  value : α
  events : List Event
  deriving Repr, DecidableEq

namespace Logged

def silent {α : Type} (a : α) : Logged α := ⟨a, []⟩

end Logged
end DumpCheck
