import DumpCheck.Log.Pattern.Escape
import DumpCheck.Log.Pattern.Height

/-!
# Classes of characters

A class in brackets has single characters, ranges, other classes and the classes with a name as its
members, and operators between lists of members. `CharClass.read?` gives its height.
-/

namespace DumpCheck
namespace Pattern

/-- A class whose bracket is still open. -/
structure CharClass where
  /-- The height of what stands in front of the last operator. -/
  before : Option Nat
  /-- The heights of the members behind it. -/
  members : List Nat
  /-- There are only dashes so far, so that one more is a member. -/
  atDashes : Bool
  deriving Repr, DecidableEq

namespace CharClass

/-- Behind an opening bracket. -/
def opened : CharClass := ⟨none, [], true⟩

def add (k : CharClass) (h : Nat) : CharClass :=
  { k with members := h :: k.members, atDashes := false }

/-- Adds a dash in front of all other members. -/
def addDash (k : CharClass) : CharClass :=
  { k with members := 0 :: k.members }

/-- The height of all that stands between the brackets. -/
def inner (k : CharClass) : Nat :=
  match k.before with
  | none => height k.members
  | some h => max h (height k.members) + 1

/-- Begins what stands behind an operator. -/
def operator (k : CharClass) : CharClass := ⟨some k.inner, [], false⟩

def names : List Text :=
  ["alnum", "alpha", "ascii", "blank", "cntrl", "digit", "graph", "lower", "print", "punct", "space",
    "upper", "word", "xdigit"].map String.toList

/-- Reads the name of a class behind its bracket, as in `[:alpha:]`, and says whether all other
characters are meant. -/
def named? : Text → Option (Bool × Text)
  | ':' :: t =>
    let positive := (['^'].isPrefixOf? t).getD t
    match positive.takeWhile (· ≠ ':'), positive.dropWhile (· ≠ ':') with
    | name, ':' :: ']' :: rest => if names.contains name then some (t.head? = some '^', rest) else none
    | _, _ => none
  | _ => none

/-- Reads a member that is a character, or a letter for a set of characters. -/
def member? (f : Flags) : Text → Option (Option Char × Text)
  | [] => none
  | '\\' :: rest =>
    match Escape.read? f rest with
    | some (.char c, rest) => if f.admits c then some (some c, rest) else none
    | some (.charSet, rest) => some (none, rest)
    | _ => none
  | c :: rest => if f.admits c then some (some c, rest) else none

/-- What follows a member or a range of characters. -/
def afterRange? (f : Flags) (t : Text) : Option Text := do
  let (first, rest) ← member? f t
  match f.skip rest with
  | '-' :: more =>
    if f.ahead? more = some ']' || f.ahead? more = some '-' then some ('-' :: more)
    else
      match first, ← member? f (f.skip more) with
      | some first, (some last, rest) => if first ≤ last then some rest else none
      | _, _ => none
  | rest => some rest

/-- What follows an opening bracket and a caret. All characters but those of a class about bytes are more
than bytes. -/
def afterCaret? (f : Flags) (t : Text) : Option Text :=
  match f.skip t with
  | '^' :: rest => if f.unicode then some rest else none
  | t => some t

/-- The height of a class and what follows it. `k` is the innermost class that is open, `around` are those
around it. If the cases of characters are needed, a class has no members. -/
def read? (f : Flags) : (fuel : Nat) → (around : List CharClass) → (k : CharClass) → (t : Text) →
    Option (Nat × Text)
  | 0, _, _, _ => none
  | fuel + 1, around, k, t =>
    match f.skip t with
    | [] => none
    | ']' :: rest =>
      if k.atDashes && k.members.isEmpty then
        if f.needsCases then none else read? f fuel around (k.add 0) rest
      else
        match around with
        | [] => some (k.inner + 1, rest)
        | outer :: around => read? f fuel around (outer.add (k.inner + 1)) rest
    | '[' :: rest =>
      match named? rest with
      | some (negated, rest) =>
        if f.needsCases || (negated && !f.unicode) then none else read? f fuel around (k.add 0) rest
      | none => (afterCaret? f rest).bind (read? f fuel (k :: around) opened)
    | '&' :: '&' :: rest => read? f fuel around k.operator rest
    | '~' :: '~' :: rest => read? f fuel around k.operator rest
    | c :: rest =>
      if c = '-' && k.atDashes then
        if f.needsCases then none else read? f fuel around k.addDash rest
      else if c = '-' && rest.head? = some '-' then read? f fuel around k.operator (rest.drop 1)
      else if f.needsCases then none
      else (afterRange? f (c :: rest)).bind (read? f fuel around (k.add 0))

end CharClass
end Pattern
end DumpCheck
