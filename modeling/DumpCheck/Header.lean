import DumpCheck.Event
import DumpCheck.Label
import DumpCheck.Text.Lowercase

/-!
# Headers

A header names its columns, separated by single spaces. Two headers are equal if their labels are,
column by column and in lowercase (`headersEqual`).
-/

namespace DumpCheck
namespace Header

def columns (header : Text) : List Text :=
  header.splitOn ' '

/-- Compares labels column by column. Each difference is an event, and only a malformed label ends
the comparison early. -/
def columnsEqual : List (Text × Text) → Logged (Except LabelError Bool)
  | [] => .silent (.ok true)
  | (c1, c2) :: rest =>
    match labelsEqual c1.lowercase c2.lowercase with
    | .error e => .silent (.error e)
    | .ok true => columnsEqual rest
    | .ok false =>
      let later := columnsEqual rest
      ⟨later.value.map fun _ => false, .labelDiffers c1 c2 :: later.events⟩

end Header

/-- Compares two headers. Headers of different widths differ, whatever their labels are. -/
def headersEqual (h1 h2 : Text) : Logged (Except LabelError Bool) :=
  let cs1 := Header.columns h1
  let cs2 := Header.columns h2
  if cs1.length = cs2.length then Header.columnsEqual (cs1.zip cs2)
  else ⟨.ok false, [.columnCountDiffers cs1.length cs2.length]⟩

end DumpCheck
