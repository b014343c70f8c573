import DumpCheck.Log.Pattern.Flags
import DumpCheck.Log.Pattern.Height
import DumpCheck.Text.Alphanumeric

/-!
# Groups of patterns

Parentheses hold a group, with or without a name, or flags. A group has branches with bars between them,
and a branch is a row of items. Flags hold up to the end of the group in which they stand.
-/

namespace DumpCheck
namespace Pattern

/-- What stands behind an opening parenthesis. -/
inductive Opening where
  /-- Flags for the rest of the group around them. -/
  | flags (f : Flags)
  /-- The beginning of a group with its flags and its name. -/
  | group (f : Flags) (name : Option Text)
  deriving Repr, DecidableEq

namespace Opening

/-- Reads the name of a group, up to an angle bracket. -/
def name? (t : Text) : Option (Text × Text) :=
  let mayFollow := fun c => Text.isAlphanumeric c || "_.[]".toList.contains c
  match t.takeWhile (· ≠ '>'), t.dropWhile (· ≠ '>') with
  | c :: more, _ :: rest =>
    if (c = '_' || Text.isAlphabetic c) && more.all mayFollow then some (c :: more, rest) else none
  | _, _ => none

/-- Reads what stands behind an opening parenthesis. -/
def read? (f : Flags) : Text → Option (Opening × Text)
  | '?' :: 'P' :: '<' :: rest => (name? rest).map fun (name, rest) => (.group f (some name), rest)
  | '?' :: '<' :: rest => (name? rest).map fun (name, rest) => (.group f (some name), rest)
  | '?' :: rest =>
    let isFlag := fun c => c ≠ ':' && c ≠ ')'
    let letters := rest.takeWhile isFlag
    match f.change? letters, rest.dropWhile isFlag with
    | some f, ':' :: rest => some (.group f none, rest)
    | some f, _ :: rest => if letters.isEmpty then none else some (.flags f, rest)
    | _, _ => none
  | t => some (.group f none, t)

end Opening

structure OpenGroup where
  /-- The flags that hold now. -/
  flags : Flags
  /-- The heights of the branches in front of the last one. -/
  branches : List Nat
  /-- The heights of the items of the last branch, the last one first. -/
  items : List Nat
  /-- The last item may be repeated. -/
  repeatable : Bool
  deriving Repr, DecidableEq

namespace OpenGroup

/-- At the beginning of a group. -/
def opened (f : Flags) : OpenGroup := ⟨f, [], [], false⟩

def add (g : OpenGroup) (h : Nat) : OpenGroup :=
  { g with items := h :: g.items, repeatable := true }

/-- Adds flags, which count as an item that is not repeated. -/
def addFlags (g : OpenGroup) (f : Flags) : OpenGroup :=
  { g with flags := f, items := 0 :: g.items, repeatable := false }

def branch (g : OpenGroup) : OpenGroup :=
  { g with branches := height g.items :: g.branches, items := [], repeatable := false }

def repeated? (g : OpenGroup) : Option OpenGroup :=
  match g.items with
  | h :: items => if g.repeatable then some { g with items := (h + 1) :: items } else none
  | [] => none

/-- The height of all that stands between the parentheses. -/
def inner (g : OpenGroup) : Nat :=
  height (height g.items :: g.branches)

end OpenGroup
end Pattern
end DumpCheck
