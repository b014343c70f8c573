import DumpCheck.Toml.Item
import DumpCheck.Toml.Quoted

/-!
# Reading TOML

`Document.parse?` gives the table that a text of TOML 1.1 describes, and nothing if the text is not
well-formed. A reader takes what it reads off the front of the text. Every turn of a loop takes at
least one character, so a loop gets the length of the text as its bound (`Reader.bounded`).
-/

namespace DumpCheck
namespace Toml

/-- Takes a value off the front of a text, or fails. -/
abbrev Reader := StateT Text Option

/-- How deep brackets and braces may nest, and how many parts a key may have. -/
def maxDepth : Nat := 80

namespace Reader

/-- Runs a loop with one more turn than there are characters left. -/
def bounded {α : Type} (loop : Nat → Reader α) : Reader α :=
  fun t => loop (t.length + 1) t

/-- The text begins so. -/
def sees (start : Text) : Reader Bool :=
  fun t => some (start.isPrefixOf t, t)

/-- Takes `start`, which has to be there. -/
def expect (start : Text) : Reader Unit :=
  fun t => (start.isPrefixOf? t).map fun rest => ((), rest)

/-- Takes `start` if it is there, and tells whether it was. -/
def accept (start : Text) : Reader Bool :=
  fun t => match start.isPrefixOf? t with
    | some rest => some (true, rest)
    | none => some (false, t)

def atEnd : Reader Bool :=
  fun t => some (t.isEmpty, t)

/-- Takes the spaces and tabs. -/
def blanks : Reader Unit :=
  fun t => some ((), t.dropWhile fun c => c = ' ' || c = '\t')

/-- Takes a line break if there is one, and tells whether there was. -/
def lineBreak : Reader Bool := do
  if ← accept ['\n'] then return true
  accept ['\r', '\n']

/-- Takes a comment if there is one. Only characters that stand for themselves may be in it. -/
def comment : Reader Unit := do
  if ← sees ['#'] then
    fun t => some ((), t.dropWhile Quoted.isPlain)

/-- Takes spaces, line breaks and comments. -/
def gap : (fuel : Nat) → Reader Unit
  | 0 => failure
  | fuel + 1 => do
    blanks
    comment
    if ← lineBreak then gap fuel

/-- A character of a key without quotes. -/
def isBareKeyChar (c : Char) : Bool :=
  c.isAlphanum || c = '_' || c = '-'

def simpleKey : Reader Text :=
  fun t => match t.takeWhile isBareKeyChar with
    | [] => Quoted.short? t
    | key => some (key, t.dropWhile isBareKeyChar)

/-- The parts of a key between its dots, at most `limit` of them. -/
def key : (limit : Nat) → Reader (List Text)
  | 0 => failure
  | limit + 1 => do
    blanks
    let part ← simpleKey
    blanks
    if ← accept ['.'] then
      return part :: (← key limit)
    else return [part]

/-- The items of an array behind its opening bracket. -/
def arrayItems (item : Reader Item) : (fuel : Nat) → Reader (List Item)
  | 0 => failure
  | fuel + 1 => do
    bounded gap
    if ← accept [']'] then return []
    let first ← item
    bounded gap
    if ← accept [','] then
      return first :: (← arrayItems item fuel)
    expect [']']
    return [first]

/-- A key, an equals sign and an item, with `space` about the equals sign. -/
def keyItem (space : Reader Unit) (item : Reader Item) : Reader (List Text × Item) := do
  let path ← key maxDepth
  space
  expect ['=']
  space
  return (path, ← item)

/-- The rest of a table between braces that has the entries `t` so far. The last entry may have a comma
behind it. -/
def inlineEntries (item : Reader Item) : (fuel : Nat) → Table → Reader Table
  | 0, _ => failure
  | fuel + 1, t => do
    bounded gap
    if ← accept ['}'] then return t
    let (path, i) ← keyItem (bounded gap) item
    let t ← (t.put i path : Option Table)
    bounded gap
    if ← accept [','] then
      inlineEntries item fuel t
    else
      expect ['}']
      return t

/-- An item. `part` reads the items inside of it; without it, no brackets and no braces are allowed. -/
def itemOf (part : Option (Reader Item)) : Reader Item := do
  if ← accept ['['] then
    let some part := part | failure
    return .array (← bounded (arrayItems part))
  if ← accept ['{'] then
    let some part := part | failure
    return .table .inline (← bounded fun fuel => inlineEntries part fuel [])
  if (← sees ['"']) || (← sees ['\'']) then
    return .string (← Quoted.any?)
  let word ← (fun t => some (Scalar.splitWord t) : Reader Text)
  if Scalar.valid word then return .scalar
  failure

/-- An item in which brackets and braces nest no deeper than `depth`. -/
def item : (depth : Nat) → Reader Item
  | 0 => itemOf none
  | depth + 1 => itemOf (some (item depth))

end Reader

namespace Document

open Reader

/-- A document as far as it has been read. -/
structure Draft where
  root : Table
  /-- The header that the following entries belong to. -/
  header : List Text

/-- Opens the table of a header. -/
def Draft.open? (d : Draft) (path : List Text) (define : Text → Table → Option Table) : Option Draft := do
  let key ← path.getLast?
  let root ← d.root.modifyAt (define key) path.dropLast
  some ⟨root, path⟩

/-- Adds an entry to the table of the latest header. -/
def Draft.add? (d : Draft) (path : List Text) (i : Item) : Option Draft := do
  let root ← d.root.modifyAt (·.put i path) d.header
  some { d with root }

/-- Reads one line up to its end: nothing, a header or an entry. An entry may go over several lines. -/
def expression (d : Draft) : Reader Draft := do
  blanks
  if (← atEnd) || (← sees ['\n']) || (← sees ['\r', '\n']) || (← sees ['#']) then return d
  if ← accept ['[', '['] then
    let path ← key maxDepth
    expect [']', ']']
    d.open? path Table.extend
  else if ← accept ['['] then
    let path ← key maxDepth
    expect [']']
    d.open? path Table.define
  else
    let (path, i) ← keyItem blanks (item maxDepth)
    d.add? path i

def lines : (fuel : Nat) → Draft → Reader Table
  | 0, _ => failure
  | fuel + 1, d => do
    let d ← expression d
    blanks
    comment
    if ← lineBreak then
      lines fuel d
    else if ← atEnd then
      return d.root
    else failure

/-- The table that a text describes. A byte order mark in front of it is passed over. -/
def parse? (t : Text) : Option Table :=
  let t := (['\uFEFF'].isPrefixOf? t).getD t
  ((bounded fun fuel => lines fuel ⟨[], []⟩) t).map Prod.fst

end Document
end Toml
end DumpCheck
