import DumpCheck.Text.Blank

/-!
# The lines of a dump

`Lines` is a list of trimmed lines. It comes from a whole text (`Lines.parse`) or from lines that
are given one by one (`Lines.ofList`); `Lines.render` writes it out again.
-/

namespace DumpCheck

/-- The lines of a dump, without blanks at either end of a line. -/
structure Lines where
  toList : List Text
  trimmed : ∀ l ∈ toList, l.trim = l
  deriving DecidableEq

/-- A line that holds a dash marks the border of a block. -/
def isSeparator (l : Text) : Bool :=
  l.contains '-'

/-- A line was asked for behind the end of a dump. -/
structure OutOfBounds where
  size : Nat
  index : Nat
  deriving Repr, DecidableEq

def OutOfBounds.message (e : OutOfBounds) : Text :=
  "index out of bounds: the len is ".toList ++ .ofNat e.size ++ " but the index is ".toList ++ .ofNat e.index

namespace Lines

/-- Trims each of the lines that are given. -/
def ofList (ls : List Text) : Lines where
  toList := ls.map Text.trim
  trimmed := by simp

/-- The pieces of a text between line feeds; a line feed at the very end opens no further line. -/
def pieces (t : Text) : List Text :=
  let ps := t.splitOn '\n'
  if ps.getLast? = some [] then ps.dropLast else ps

def parse (t : Text) : Lines :=
  ofList (pieces t)

/-- The text with one line feed behind every line. -/
def render (ls : Lines) : Text :=
  ls.toList.flatMap Text.line

def size (ls : Lines) : Nat :=
  ls.toList.length

def isEmpty (ls : Lines) : Bool :=
  ls.toList.isEmpty

def get? (ls : Lines) (i : Nat) : Option Text :=
  ls.toList[i]?

/-- The line at a position that has to be inside the dump. -/
def get (ls : Lines) (i : Nat) : Except OutOfBounds Text :=
  match ls.get? i with
  | some l => .ok l
  | none => .error ⟨ls.size, i⟩

def append (ls ms : Lines) : Lines where
  toList := ls.toList ++ ms.toList
  trimmed l h := (List.mem_append.1 h).elim (ls.trimmed l) (ms.trimmed l)

instance : Append Lines := ⟨append⟩

@[simp] theorem toList_ofList (ls : List Text) : (ofList ls).toList = ls.map Text.trim := rfl

@[simp] theorem toList_append (ls ms : Lines) : (ls ++ ms).toList = ls.toList ++ ms.toList := rfl

@[ext] theorem ext {ls ms : Lines} (h : ls.toList = ms.toList) : ls = ms := by
  cases ls; cases ms; cases h; rfl

theorem ofList_toList (ls : Lines) : ofList ls.toList = ls :=
  ext (by simpa using List.map_congr_left (g := id) ls.trimmed)

end Lines
end DumpCheck
