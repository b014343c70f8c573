import DumpCheck.Log.Filter
import DumpCheck.Options.Help
import DumpCheck.Run

/-!
# The program

`Program.run` is the whole program as a function of its command line, its environment and the files
that it can read.
-/

namespace DumpCheck

structure Ending where
  code : Nat
  out : Text
  err : Text
  deriving Repr, DecidableEq

namespace Program

def shownOut : Action → Text
  | .out t => t
  | .log _ | .err _ | .warn _ | .flush => []

/-- What an action shows on the error output; the log goes there as far as the filter lets it. -/
def shownErr (f : Filter) : Action → Text
  | .err t | .warn t => t
  | .log r => if f.shows r then .line r.text else []
  | .out _ | .flush => []

/-- The last word on a run that failed. -/
def complaint : Except RunError Verdict → Text
  | .ok _ => []
  | .error e => Severity.error.line false e.message

/-- The end of a run whose outputs take everything. -/
def ending (f : Filter) (r : Run) : Ending where
  code := Run.exitCode r.result
  out := r.actions.flatMap shownOut
  err := r.actions.flatMap (shownErr f) ++ complaint r.result

/-- Where to look after a command line that does not lead to a run. -/
def hint : Text :=
  "For more information, try '--help'.".toList

/-- The end of a program that does not run. -/
def refused (environment : Environment) (r : Refusal) : Ending :=
  match r.answer? environment with
  | some text => ⟨0, text, []⟩
  | none => ⟨2, [], .line ("error: ".toList ++ r.message) ++ .line [] ++ .line hint⟩

def run (environment : Environment) (files : Files) (words : List Text) : Ending :=
  match Options.parse environment words with
  | .error r => refused environment r
  | .ok o =>
    ending (Filter.choose o.verbose (environment.lookup "RUST_LOG".toList)) (Run.plan files o)

end Program
end DumpCheck
