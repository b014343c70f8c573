import DumpCheck.Text.Basic

/-!
# Contents of a TOML document

A document is a table of named items. What may be added to a table depends on how the table came to
be, its `Origin`; `Table.define`, `Table.extend` and `Table.put` give the rules.
-/

namespace DumpCheck
namespace Toml

/-- How a table came to be. -/
inductive Origin
  /-- It stands in a longer header only. -/
  | implied
  /-- It has a header of its own. -/
  | header
  /-- It stands in a dotted key. -/
  | dotted
  /-- It is written between braces, and nothing is added to it later. -/
  | inline
  deriving Repr, DecidableEq

inductive Item
  | string (t : Text)
  /-- A number, a boolean or a date. Its form is checked, its value is not kept. -/
  | scalar
  | array (items : List Item)
  | table (origin : Origin) (entries : List (Text × Item))
  /-- The tables that share a double-bracketed header, latest first. -/
  | tables (elements : List (List (Text × Item)))
  deriving Repr

/-- Named items, in the order in which they were added. -/
abbrev Table := List (Text × Item)

namespace Table

def get? (t : Table) (key : Text) : Option Item :=
  t.lookup key

/-- Replaces the item of a key, or adds the key at the end. -/
def set : Table → (key : Text) → Item → Table
  | [], key, item => [(key, item)]
  | (k, i) :: rest, key, item => if k = key then (k, item) :: rest else (k, i) :: set rest key item

/-- Opens a table by its own header. Only a table that is implied so far may have one. -/
def define (key : Text) (t : Table) : Option Table :=
  match t.get? key with
  | none => some (t.set key (.table .header []))
  | some (.table .implied entries) => some (t.set key (.table .header entries))
  | some _ => none

/-- Opens one more table under a double-bracketed header. -/
def extend (key : Text) (t : Table) : Option Table :=
  match t.get? key with
  | none => some (t.set key (.tables [[]]))
  | some (.tables elements) => some (t.set key (.tables ([] :: elements)))
  | some _ => none

/-- Changes the table that a header path leads to. What is missing on the way is implied, and a
double-bracketed table on the way stands for its latest element. -/
def modifyAt (change : Table → Option Table) : (path : List Text) → Table → Option Table
  | [], t => change t
  | key :: path, t =>
    match t.get? key with
    | none => (modifyAt change path []).map fun inner => t.set key (.table .implied inner)
    | some (.table .inline _) => none
    | some (.table origin inner) =>
      (modifyAt change path inner).map fun inner => t.set key (.table origin inner)
    | some (.tables (latest :: earlier)) =>
      (modifyAt change path latest).map fun latest => t.set key (.tables (latest :: earlier))
    | some _ => none

/-- Puts an item under a dotted key. A key is put once; a table on the way must not have a header, and
the last one on the way must itself come from a dotted key. So a double-bracketed table, which stands
for its latest element here too, may be on the way but not the last one. -/
def put (item : Item) : (path : List Text) → Table → Option Table
  | [], _ => none
  | [key], t => if (t.get? key).isNone then some (t.set key item) else none
  | key :: next :: path, t =>
    match t.get? key with
    | none => (put item (next :: path) []).map fun inner => t.set key (.table .dotted inner)
    | some (.table .dotted inner) =>
      (put item (next :: path) inner).map fun inner => t.set key (.table .dotted inner)
    | some (.table .implied inner) =>
      if path.isEmpty then none
      else (put item (next :: path) inner).map fun inner => t.set key (.table .implied inner)
    | some (.tables (latest :: earlier)) =>
      if path.isEmpty then none
      else (put item (next :: path) latest).map fun latest => t.set key (.tables (latest :: earlier))
    | some _ => none

end Table
end Toml
end DumpCheck
