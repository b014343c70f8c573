import DumpCheck.Header
import DumpCheck.Layout
import DumpCheck.Lines
import DumpCheck.Rows
import DumpCheck.Verdict

/-!
# Comparison of two dumps

`Comparator.compare` reads two dumps of equal length side by side. A line that is the same separator
on both sides marks the border of a block; the layout tells which border it is. Headers are compared
as they come and the rows of a block when it is closed, and the first mismatch ends the comparison.
-/

namespace DumpCheck

structure Comparator where
  layout : Layout
  rowMatch : RowMatch
  deriving Repr, DecidableEq

instance : Inhabited Comparator := ⟨⟨default, default⟩⟩

/-- What is known of two dumps after some of their lines. -/
structure Scan where
  phase : Phase
  /-- The pairs of rows since the last header, latest first. -/
  pending : List (Text × Text)
  matched : Summary
  /-- What happened so far, latest first. -/
  log : List Event
  deriving Repr, DecidableEq

/-- A mismatch and what happened up to it, latest first. -/
structure Rejection where
  mismatch : Mismatch
  log : List Event
  deriving Repr, DecidableEq

/-- The line is the same on both sides and separates blocks. -/
def sharedSeparator (pair : Text × Text) : Bool :=
  pair.1 = pair.2 && isSeparator pair.1

namespace Scan

def start : Scan := ⟨.atHeader, [], ⟨0, 0⟩, []⟩

def header (s : Scan) (next : Phase) (actual expected : Text) : Except Rejection Scan :=
  let verdict := headersEqual actual expected
  let log := verdict.events.reverse ++ s.log
  match verdict.value with
  | .ok true => .ok { s with phase := next, log }
  | .ok false => .error ⟨.header s.matched.queries actual expected, log⟩
  | .error e => .error ⟨.malformedLabel s.matched.queries e.label, log⟩

/-- Checks the rows of a block that ends here. -/
def close (s : Scan) (rowMatch : RowMatch) : Except Rejection Scan :=
  let actual := rowMatch.arrange (s.pending.map Prod.fst)
  let expected := rowMatch.arrange (s.pending.map Prod.snd)
  if rowMatch.agree actual expected then
    .ok
      { phase := .atHeader
        pending := []
        matched := ⟨s.matched.queries + 1, s.matched.rows + s.pending.length⟩
        log := .blockMatched (s.matched.queries + 1) s.pending.length :: s.log }
  else
    let balance := Balance.ofRows actual expected
    .error ⟨.rowSet s.matched.queries balance.missing balance.unexpected, s.log⟩

def step (c : Comparator) (s : Scan) (pair : Text × Text) : Except Rejection Scan :=
  let shared := sharedSeparator pair
  let role := c.layout.role s.phase shared
  let next := c.layout.after shared role
  match role with
  | .header => s.header next pair.1 pair.2
  | .underline => .ok { s with phase := next }
  | .row => .ok { s with phase := next, pending := pair :: s.pending }
  | .closer => s.close c.rowMatch

/-- Ends the reading: rows of a block that was not closed are left out of the comparison. -/
def finish (s : Scan) : Logged Verdict :=
  let log := if s.pending.isEmpty then s.log else .tailNotCompared s.pending.length :: s.log
  ⟨.agree s.matched, log.reverse⟩

end Scan

namespace Comparator

/-- Reads the lines of both dumps from the beginning, up to the first mismatch. -/
def scan (c : Comparator) (pairs : List (Text × Text)) : Except Rejection Scan :=
  pairs.foldlM (Scan.step c) .start

/-- Compares two dumps. Dumps of different lengths differ, whatever their lines are. -/
def compare (c : Comparator) (actual expected : Lines) : Logged Verdict :=
  if actual.size = expected.size then
    match c.scan (actual.toList.zip expected.toList) with
    | .ok s => s.finish
    | .error r => ⟨.differ r.mismatch, r.log.reverse⟩
  else .silent (.differ (.length actual.size expected.size))

end Comparator
end DumpCheck
