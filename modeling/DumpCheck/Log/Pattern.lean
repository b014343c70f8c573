import DumpCheck.Log.Pattern.CharClass
import DumpCheck.Log.Pattern.Group

/-!
# Patterns

The value that a filter asks for is a number or a regular expression. Nothing in this program is
matched against one, so all that counts is whether a text is a pattern at all: `Pattern.valid`.
-/

namespace DumpCheck
namespace Pattern

/-- An exponent or nothing. -/
def endsWithExponent : Text → Bool
  | [] => true
  | c :: rest =>
    let digits := if rest.head? = some '+' || rest.head? = some '-' then rest.drop 1 else rest
    (c = 'e' || c = 'E') && !digits.isEmpty && digits.all Char.isDigit

/-- A number without a sign. -/
def isNumber (t : Text) : Bool :=
  let words := ["inf".toList, "infinity".toList, "nan".toList]
  words.contains (t.map Char.toLower) ||
    match t.takeWhile Char.isDigit, t.dropWhile Char.isDigit with
    | whole, '.' :: rest =>
      !(whole ++ rest.takeWhile Char.isDigit).isEmpty && endsWithExponent (rest.dropWhile Char.isDigit)
    | whole, rest => !whole.isEmpty && endsWithExponent rest

/-- What follows an item that is neither a group nor a class in brackets. Any byte may be no character, so
the point is about characters only. -/
def afterItem? (f : Flags) : Text → Option Text
  | [] => none
  | '\\' :: rest =>
    match Escape.read? f rest with
    | some (.char _, rest) => if f.needsCases then none else some rest
    | some (_, rest) => some rest
    | none => none
  | '.' :: rest => if f.unicode then some rest else none
  | '^' :: rest => some rest
  | '$' :: rest => some rest
  | _ :: rest => if f.needsCases then none else some rest

/-- The height of a regular expression of which `t` is left. `g` is the innermost group that is open,
`around` are those around it, and `names` are the names that are given. A brace could only count
repetitions, and there is no such thing. -/
def expression? : (fuel : Nat) → (names : List Text) → (around : List OpenGroup) → (g : OpenGroup) →
    (t : Text) → Option Nat
  | 0, _, _, _, _ => none
  | fuel + 1, names, around, g, t =>
    match g.flags.skip t with
    | [] => if around.isEmpty then some g.inner else none
    | c :: rest =>
      match c with
      | '(' =>
        match Opening.read? g.flags (g.flags.skip rest) with
        | some (.flags f, rest) => expression? fuel names around (g.addFlags f) rest
        | some (.group f none, rest) => expression? fuel names (g :: around) (.opened f) rest
        | some (.group f (some name), rest) =>
          if names.contains name then none
          else expression? fuel (name :: names) (g :: around) (.opened f) rest
        | none => none
      | ')' =>
        match around with
        | [] => none
        | outer :: around => expression? fuel names around (outer.add (g.inner + 1)) rest
      | '|' => expression? fuel names around g.branch rest
      | '[' =>
        match (CharClass.afterCaret? g.flags rest).bind (CharClass.read? g.flags fuel [] .opened) with
        | some (h, rest) => expression? fuel names around (g.add h) rest
        | none => none
      | '{' => none
      | '*' | '+' | '?' =>
        g.repeated?.bind fun g => expression? fuel names around g ((['?'].isPrefixOf? rest).getD rest)
      | c => (afterItem? g.flags (c :: rest)).bind (expression? fuel names around (g.add 0))

/-- The text is a number or a regular expression. -/
def valid (t : Text) : Bool :=
  match t with
  | '+' :: rest => isNumber rest
  | t => (expression? (t.length + 1) [] [] (.opened .initial) t).any (· ≤ maxHeight)

end Pattern
end DumpCheck
