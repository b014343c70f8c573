import DumpCheck.Text.Basic

/-!
# Log records

A record is what the program says about its own work: how important it is, which part says it, a
message and named values. `Record.text` is the line that is shown for it.
-/

namespace DumpCheck

/-- How important a log record is, the most important first. -/
inductive Level
  | error | warn | info | debug | trace
  deriving Repr, DecidableEq

namespace Level

/-- The name of a level in capitals. -/
def name : Level → Text
  | error => "ERROR".toList
  | warn => "WARN".toList
  | info => "INFO".toList
  | debug => "DEBUG".toList
  | trace => "TRACE".toList

/-- The place of a level: one for errors, and more for what is less important. -/
def rank : Level → Nat
  | error => 1
  | warn => 2
  | info => 3
  | debug => 4
  | trace => 5

end Level

structure Record where
  level : Level
  /-- The part of the program that says it. -/
  target : Text
  message : Text
  /-- Named values, in the order in which they are shown. -/
  fields : List (Text × Text)
  deriving Repr, DecidableEq

namespace Record

/-- The names under which a record has something to say. -/
def fieldNames (r : Record) : List Text :=
  "message".toList :: r.fields.map Prod.fst

/-- The line shown for a record: the level in five columns, the message and each `name=value`. -/
def text (r : Record) : Text :=
  (List.replicate (5 - r.level.name.length) ' ' ++ r.level.name ++ ' ' :: r.message ++
    r.fields.flatMap fun (name, value) => ' ' :: name ++ '=' :: value)

end Record
end DumpCheck
