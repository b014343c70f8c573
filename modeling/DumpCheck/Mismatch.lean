import DumpCheck.Text.Json

/-!
# Mismatches

The first difference found between two dumps, in words and as JSON.
-/

namespace DumpCheck

/-- The first difference between two dumps. A query index counts the blocks that matched before. -/
inductive Mismatch
  | length (actual expected : Nat)
  | header (queryIndex : Nat) (actual expected : Text)
  /-- `missing` are the rows that only the expected dump has, `unexpected` those of the actual one. -/
  | rowSet (queryIndex : Nat) (missing unexpected : List Text)
  /-- A label of the expected header has no column where its function calls for one. -/
  | malformedLabel (queryIndex : Nat) (label : Text)
  deriving Repr, DecidableEq

/-- Which difference it is, without its particulars. -/
inductive MismatchKind
  | length | header | rowSet | malformedLabel
  deriving Repr, DecidableEq

namespace MismatchKind

def name : MismatchKind → Text
  | length => "length_mismatch".toList
  | header => "header_mismatch".toList
  | rowSet => "row_set_mismatch".toList
  | malformedLabel => "malformed_aggregation_label".toList

def json (k : MismatchKind) : Text :=
  Json.string k.name

end MismatchKind

namespace Mismatch

def kind : Mismatch → MismatchKind
  | length .. => .length
  | header .. => .header
  | rowSet .. => .rowSet
  | malformedLabel .. => .malformedLabel

/-- The number of blocks before the one that fails, if it is one block that fails. -/
def queryIndex : Mismatch → Option Nat
  | length .. => none
  | header q .. | rowSet q .. | malformedLabel q .. => some q

/-- The number of the failing block, counted from one. -/
def queryNumber (m : Mismatch) : Option Nat :=
  m.queryIndex.map (· + 1)

/-- The kind of failure in words. -/
def category : Mismatch → Text
  | length .. => "different length".toList
  | header .. => "query header not the same".toList
  | rowSet .. => "values not the same".toList
  | malformedLabel .. => "malformed aggregation label".toList

/-- The failure in words, with the number of its block and the label that is malformed. -/
def message (m : Mismatch) : Text :=
  let place := match m.queryNumber with
    | none => []
    | some n => "[query ".toList ++ .ofNat n ++ "] ".toList
  let detail := match m with
    | malformedLabel _ label => " '".toList ++ label ++ "'".toList
    | _ => []
  place ++ m.category ++ detail

/-- The particulars of a mismatch, named and in order. -/
def jsonFields : Mismatch → List (Text × Text)
  | length actual expected =>
    [("actual".toList, Json.number actual), ("expected".toList, Json.number expected)]
  | header q actual expected =>
    [("query_index".toList, Json.number q), ("actual".toList, Json.string actual),
      ("expected".toList, Json.string expected)]
  | rowSet q missing unexpected =>
    [("query_index".toList, Json.number q), ("missing".toList, Json.array (missing.map Json.string)),
      ("unexpected".toList, Json.array (unexpected.map Json.string))]
  | malformedLabel q label =>
    [("query_index".toList, Json.number q), ("label".toList, Json.string label)]

/-- An object whose first field is the kind. -/
def json (m : Mismatch) : Text :=
  Json.object (("kind".toList, m.kind.json) :: m.jsonFields)

end Mismatch
end DumpCheck
