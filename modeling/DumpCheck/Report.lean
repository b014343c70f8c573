import DumpCheck.Verdict

/-!
# Reports

What is said about the outcome of a comparison: a verdict for the output and, in text, particulars of
the mismatch for the error output.
-/

namespace DumpCheck

inductive OutputFormat
  /-- One line for people. -/
  | text
  /-- One JSON object. -/
  | json
  deriving Repr, DecidableEq

namespace OutputFormat

instance : Inhabited OutputFormat := ⟨text⟩

def all : List OutputFormat := [text, json]

def name : OutputFormat → Text
  | text => "text".toList
  | json => "json".toList

end OutputFormat

namespace Verdict

def textLine (v : Verdict) : Text :=
  if v.matched then .line v.message else .line ("Error: ".toList ++ v.message)

/-- The particulars of a mismatch, line by line. -/
def details : Verdict → List Text
  | agree _ => []
  | differ (.length actual expected) =>
    ["  actual lines:   ".toList ++ .ofNat actual, "  expected lines: ".toList ++ .ofNat expected]
  | differ (.header _ actual expected) =>
    ["  actual header:   ".toList ++ actual, "  expected header: ".toList ++ expected]
  | differ (.rowSet _ missing unexpected) =>
    missing.map ("  missing:    ".toList ++ ·) ++ unexpected.map ("  unexpected: ".toList ++ ·)
  | differ (.malformedLabel _ label) => ["  no parenthesized column in label: ".toList ++ label]

/-- The fields that only some verdicts have. -/
def jsonFields : Verdict → List (Text × Text)
  | agree s =>
    [("summary".toList,
      Json.object [("queries".toList, Json.number s.queries), ("rows".toList, Json.number s.rows)])]
  | differ m =>
    ("kind".toList, m.kind.json) ::
      (m.queryNumber.map fun n => ("query".toList, Json.number n)).toList ++ [("mismatch".toList, m.json)]

/-- The verdict as a JSON object. A field that does not apply is left out. -/
def json (v : Verdict) : Text :=
  Json.object
    (("matched".toList, Json.bool v.matched) :: ("message".toList, Json.string v.message) :: v.jsonFields)

end Verdict

/-- What a report puts on the output and on the error output. -/
structure Report where
  out : Text
  err : Text
  deriving Repr, DecidableEq

def Report.ofVerdict (v : Verdict) : OutputFormat → Report
  | .text => ⟨v.textLine, v.details.flatMap Text.line⟩
  | .json => ⟨.line v.json, []⟩

end DumpCheck
