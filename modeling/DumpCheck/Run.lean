import DumpCheck.Console
import DumpCheck.Diagnostic
import DumpCheck.Settings

/-!
# Runs

A run reads two dumps, compares them and reports the outcome. `Run.plan` says what it does if nothing
goes wrong with writing, and `Run.perform` does it on a console.
-/

namespace DumpCheck

/-- Why a run ends without a verdict, or with one that could not be reported. -/
inductive RunError
  | config (e : ConfigError)
  | unreadable (path : Text) (cause : ReadFailure)
  | unwritten (cause : WriteFailure)
  deriving Repr, DecidableEq

namespace RunError

def message : RunError → Text
  | config e => e.message
  | unreadable path cause => "Failed to read result dump '".toList ++ path ++ "': ".toList ++ cause.message
  | unwritten cause => "Failed to write report: ".toList ++ cause.message

end RunError

/-- What a run does, and what it comes to if all of that succeeds. -/
structure Run where
  actions : List Action
  result : Except RunError Verdict

namespace Run

def readDump (files : Files) (path : Text) : Except RunError Lines :=
  match files.text path with
  | .ok t => .ok (.parse t)
  | .error cause => .error (.unreadable path cause)

/-- Two empty dumps match, but hardly on purpose. The warning has a color on a terminal. -/
def emptyWarning (terminal : Bool) (actual expected : Lines) : List Action :=
  if actual.isEmpty && expected.isEmpty then
    [.warn (Severity.warning.line terminal "both result dumps are empty".toList)]
  else []

/-- Compares two dumps and reports the verdict. -/
def compare (terminal : Bool) (s : Settings) (format : OutputFormat) (actual expected : Lines) : Run :=
  let verdict := s.comparator.compare actual expected
  let report := Report.ofVerdict verdict.value format
  { actions :=
      emptyWarning terminal actual expected ++ verdict.events.map (fun e => .log e.record) ++
        [.out report.out, .err report.err, .flush]
    result := .ok verdict.value }

/-- Reads the two dumps, the actual one first, and goes on with them. -/
def readBoth (files : Files) (s : Settings) (next : Lines → Lines → Run) : Run :=
  match readDump files s.actual with
  | .error e => ⟨[], .error e⟩
  | .ok actual =>
    match readDump files s.expected with
    | .error e => ⟨[], .error e⟩
    | .ok expected => next actual expected

/-- The run with these options, if the error output of the process is a terminal or if it is not. -/
def planOn (terminal : Bool) (files : Files) (o : Options) : Run :=
  match Settings.load files o with
  | .error e => ⟨[], .error (.config e)⟩
  | .ok s =>
    let rest := readBoth files s (compare terminal s o.format)
    ⟨.log s.record :: rest.actions, rest.result⟩

/-- The run with these options, away from a terminal. -/
def plan (files : Files) (o : Options) : Run :=
  planOn false files o

/-- Carries out a run. Whatever cannot be written takes the place of its result. -/
def perform (r : Run) (c : Console) : Console × Except RunError Verdict :=
  match c.play r.actions with
  | (c, .ok ()) => (c, r.result)
  | (c, .error cause) => (c, .error (.unwritten cause))

/-- The exit code for a result: zero for a match, one for a mismatch and two for an error. -/
def exitCode : Except RunError Verdict → Nat
  | .ok (.agree _) => 0
  | .ok (.differ _) => 1
  | .error _ => 2

end Run
end DumpCheck
