import DumpCheck.Files
import DumpCheck.Layout
import DumpCheck.Rows
import DumpCheck.Toml.Document

/-!
# Configuration files

A configuration file is a TOML document with at most four entries: the paths of the two dumps, the
layout and the way rows are matched. Paths in it are relative to the file.
-/

namespace DumpCheck

structure Config where
  actual : Option Text
  expected : Option Text
  layout : Option Layout
  rowMatch : Option RowMatch
  deriving Repr, DecidableEq

/-- What is wrong with the contents of a configuration file. -/
inductive ConfigFault
  /-- It is not TOML. -/
  | malformed
  /-- An entry has an item of the wrong kind. -/
  | wrongKind
  | unknownField (name : Text) (known : List Text)
  | unknownVariant (name : Text) (known : List Text)
  deriving Repr, DecidableEq

inductive ConfigError
  | unreadable (path : Text) (cause : ReadFailure)
  | faulty (path : Text) (fault : ConfigFault)
  deriving Repr, DecidableEq

namespace ConfigFault

/-- The names of a choice: both of two, or one of a longer list. -/
def alternatives (names : List Text) : Text :=
  let quoted := names.map fun name => '`' :: name ++ ['`']
  match quoted with
  | [a, b] => a ++ " or ".toList ++ b
  | _ => "one of ".toList ++ ", ".toList.intercalate quoted

/-- The fault in words, where it is a name that is not known. -/
def detail? : ConfigFault → Option Text
  | malformed | wrongKind => none
  | unknownField name known =>
    some ("unknown field `".toList ++ name ++ "`, expected ".toList ++ alternatives known)
  | unknownVariant name known =>
    some ("unknown variant `".toList ++ name ++ "`, expected ".toList ++ alternatives known)

def message : ConfigFault → Text
  | malformed => "malformed document".toList
  | wrongKind => "invalid type".toList
  | fault => fault.detail?.getD []

end ConfigFault

namespace ConfigError

/-- What cannot be done with which file. -/
def heading : ConfigError → Text
  | unreadable path _ => "Failed to read config file '".toList ++ path ++ "': ".toList
  | faulty path _ => "Failed to parse config file '".toList ++ path ++ "': ".toList

/-- What is behind it. -/
def cause : ConfigError → Text
  | unreadable _ cause => cause.message
  | faulty _ fault => fault.message

def message (e : ConfigError) : Text :=
  e.heading ++ e.cause

end ConfigError

namespace Config

open Toml (Item Table)

def empty : Config := ⟨none, none, none, none⟩

/-- The entries that a configuration may have. -/
def fieldNames : List Text :=
  ["actual".toList, "expected".toList, "layout".toList, "row_match".toList]

/-- A path is a string. -/
def pathOf : Item → Except ConfigFault Text
  | .string t => .ok t
  | _ => .error .wrongKind

def named {α : Type} (choices : List α) (name : α → Text) (t : Text) : Except ConfigFault α :=
  match choices.find? (name · = t) with
  | some a => .ok a
  | none => .error (.unknownVariant t (choices.map name))

def isEmptyItem : Item → Bool
  | .table _ entries => entries.isEmpty
  | .array items => items.isEmpty
  | _ => false

/-- A choice is its name, or a table in which its name alone stands for something empty. -/
def choiceOf {α : Type} (choices : List α) (name : α → Text) : Item → Except ConfigFault α
  | .string t => named choices name t
  | .table _ [(key, inner)] => do
    let a ← named choices name key
    if isEmptyItem inner then return a
    throw .wrongKind
  | _ => .error .wrongKind

def layoutOf : Item → Except ConfigFault Layout :=
  choiceOf Layout.all Layout.name

def rowMatchOf : Item → Except ConfigFault RowMatch :=
  choiceOf RowMatch.all RowMatch.name

def setField (c : Config) (entry : Text × Item) : Except ConfigFault Config :=
  let (name, item) := entry
  if name = "actual".toList then
    (pathOf item).map fun p => { c with actual := some p }
  else if name = "expected".toList then
    (pathOf item).map fun p => { c with expected := some p }
  else if name = "layout".toList then
    (layoutOf item).map fun l => { c with layout := some l }
  else if name = "row_match".toList then
    (rowMatchOf item).map fun m => { c with rowMatch := some m }
  else .error (.unknownField name fieldNames)

/-- The settings in a table. Its entries are looked at in the order of their names, and the first one
that is wrong counts. -/
def ofTable (t : Table) : Except ConfigFault Config :=
  (t.mergeSort fun x y => (compare x.1 y.1).isLE).foldlM setField .empty

def ofText (t : Text) : Except ConfigFault Config :=
  match Toml.Document.parse? t with
  | some table => ofTable table
  | none => .error .malformed

/-- The settings as seen from outside of `directory`, where the file is. -/
def relativeTo (c : Config) (directory : Text) : Config :=
  { c with
    actual := c.actual.map (Path.join directory)
    expected := c.expected.map (Path.join directory) }

/-- The settings in the configuration file at a path. -/
def load (files : Files) (path : Text) : Except ConfigError Config :=
  match files.text path with
  | .error cause => .error (.unreadable path cause)
  | .ok t =>
    match ofText t with
    | .error fault => .error (.faulty path fault)
    | .ok c => .ok (c.relativeTo (Path.parent path))

end Config
end DumpCheck
