import DumpCheck.Text.Basic

/-!
# Column labels

An aggregate column has two spellings: the short one, `countofsid` or `countof(sid)`, and the call,
`count(sid)`. `labelsEqual` takes a short label and a call for equal if they name the same column.
-/

namespace DumpCheck

/-- The aggregate functions that have a short spelling. -/
inductive Aggregate
  | count | avg | min | max | sum
  deriving Repr, DecidableEq

namespace Aggregate

/-- All of them, in the order in which a label is tried. -/
def all : List Aggregate := [count, avg, min, max, sum]

/-- The name of the function, as a call spells it. -/
def name : Aggregate → Text
  | count => "count".toList
  | avg => "avg".toList
  | min => "min".toList
  | max => "max".toList
  | sum => "sum".toList

/-- What a short label begins with. -/
def shorthand (f : Aggregate) : Text :=
  f.name ++ "of".toList

/-- The first function of `fs` in whose short spelling the label is written, and the rest of the label. -/
def ofShort? : List Aggregate → Text → Option (Aggregate × Text)
  | [], _ => none
  | f :: fs, label =>
    match f.shorthand.isPrefixOf? label with
    | some rest => some (f, rest)
    | none => ofShort? fs label

end Aggregate

/-- What is between the first `(` of a label and its last `)`, if they stand in this order. -/
def parenthesized? (label : Text) : Option Text :=
  match label.dropWhile (· ≠ '(') with
  | [] => none
  | _ :: inner =>
    match inner.reverse.dropWhile (· ≠ ')') with
    | [] => none
    | _ :: column => some column.reverse

/-- Takes off one pair of parentheses around the whole text. -/
def unwrap? (t : Text) : Option Text :=
  (['('].isPrefixOf? t).bind [')'].isSuffixOf?

/-- A label that should hold a call of `function` has no parenthesized column. -/
structure LabelError where
  label : Text
  function : Text
  deriving Repr, DecidableEq

def LabelError.message (e : LabelError) : Text :=
  "label '".toList ++ e.label ++ "' has no parenthesized column for '".toList ++ e.function ++ "'".toList

/-- Two labels are equal if they are the same, or if `v1` is the short spelling of the column that the
parentheses of `v2` hold and the name of its function is somewhere in `v2`. -/
def labelsEqual (v1 v2 : Text) : Except LabelError Bool :=
  if v1 = v2 then .ok true
  else
    match Aggregate.ofShort? Aggregate.all v1 with
    | none => .ok false
    | some (f, rest) =>
      if f.name.occursIn v2 then
        match parenthesized? v2 with
        | none => .error ⟨v2, f.name⟩
        | some column => .ok (decide ((unwrap? rest).getD rest = column))
      else .ok false

end DumpCheck
