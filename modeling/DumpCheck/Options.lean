import DumpCheck.Layout
import DumpCheck.Report
import DumpCheck.Rows

/-!
# Options of the command line

`Options.parse` reads the words of a command line from left to right. An option takes its value from
the same word, behind an equals sign, or from the next word; in the second case the value is judged
only when the next option comes or the words end (`Command.settle`). What the command line leaves
open may come from the environment.
-/

namespace DumpCheck

/-- What a command line asks for. -/
structure Options where
  actual : Option Text
  expected : Option Text
  layout : Option Layout
  rowMatch : Option RowMatch
  format : OutputFormat
  config : Option Text
  verbose : Bool
  deriving Repr, DecidableEq

inductive ValueOption
  | actual | expected | layout | rowMatch | outputFormat | config
  deriving Repr, DecidableEq

namespace ValueOption

def all : List ValueOption := [actual, expected, layout, rowMatch, outputFormat, config]

/-- The name of an option, as it stands behind two dashes. -/
def name : ValueOption → Text
  | actual => "actual".toList
  | expected => "expected".toList
  | layout => "layout".toList
  | rowMatch => "row-match".toList
  | outputFormat => "output-format".toList
  | config => "config".toList

/-- The environment variable that stands in for an option. -/
def fallback? : ValueOption → Option Text
  | actual => some "RESULTCHECK_ACTUAL".toList
  | expected => some "RESULTCHECK_EXPECTED".toList
  | config => some "RESULTCHECK_CONFIG".toList
  | layout | rowMatch | outputFormat => none

/-- A path must not be empty; the other values are names. -/
def accepts : ValueOption → Text → Bool
  | actual, v | expected, v | config, v => !v.isEmpty
  | layout, v => Layout.all.any (·.name = v)
  | rowMatch, v => RowMatch.all.any (·.name = v)
  | outputFormat, v => OutputFormat.all.any (·.name = v)

end ValueOption

inductive Flag
  | verbose | help | version
  deriving Repr, DecidableEq

namespace Flag

def all : List Flag := [verbose, help, version]

/-- The name of a flag, as it stands behind two dashes. -/
def name : Flag → Text
  | verbose => "verbose".toList
  | help => "help".toList
  | version => "version".toList

/-- The letter of a flag, as it stands behind one dash. -/
def letter : Flag → Char
  | verbose => 'v'
  | help => 'h'
  | version => 'V'

end Flag

/-- Why a command line does not lead to a run. -/
inductive Refusal
  | invalidValue
  | unknownArgument
  | argumentConflict
  | tooManyValues
  /-- Help is asked for, in short or at length. -/
  | help (long : Bool)
  | version
  deriving Repr, DecidableEq

/-- Named values from outside of the program. -/
abbrev Environment := List (Text × Text)

/-- What has been read of a command line. -/
structure Command where
  values : List (ValueOption × Text)
  verbose : Bool
  /-- The latest option, with the value that it got from a word of its own, if it has one yet. -/
  pending : Option (ValueOption × Option Text)
  /-- A double dash was read, behind which no options come. -/
  closed : Bool
  deriving Repr, DecidableEq

namespace Command

def start : Command := ⟨[], false, none, false⟩

def value? (c : Command) (o : ValueOption) : Option Text :=
  c.values.lookup o

/-- Gives an option its value. It must not have one, and the value must suit it. -/
def give (c : Command) (o : ValueOption) (v : Text) : Except Refusal Command :=
  if (c.value? o).isSome then .error .argumentConflict
  else if o.accepts v then .ok { c with values := c.values ++ [(o, v)] }
  else .error .invalidValue

/-- Judges the latest option, now that no further word belongs to it. -/
def settle (c : Command) : Except Refusal Command :=
  match c.pending with
  | none => .ok c
  | some (_, none) => .error .invalidValue
  | some (o, some v) => { c with pending := none }.give o v

def raise (c : Command) (long : Bool) (f : Flag) : Except Refusal Command := do
  let c ← c.settle
  match f with
  | .verbose => if c.verbose then throw .argumentConflict else return { c with verbose := true }
  | .help => throw (.help long)
  | .version => throw .version

/-- Reads the letters behind a single dash. -/
def letters (c : Command) : Text → Except Refusal Command
  | [] => .ok c
  | l :: rest =>
    match Flag.all.find? (·.letter = l) with
    | some f => do (← c.raise false f).letters rest
    | none => .error .unknownArgument

/-- Reads what follows two dashes: a name, and possibly an equals sign and a value. -/
def long (c : Command) (t : Text) : Except Refusal Command :=
  let name := t.takeWhile (· ≠ '=')
  let attached := (t.dropWhile (· ≠ '=')).tail?
  match ValueOption.all.find? (·.name = name), Flag.all.find? (·.name = name) with
  | some o, _ => do
    let c ← c.settle
    match attached with
    | some v => c.give o v
    | none => return { c with pending := some (o, none) }
  | none, some f => if attached.isSome then .error .tooManyValues else c.raise true f
  | none, none => .error .unknownArgument

/-- Reads a word that is no option. -/
def plain (c : Command) (word : Text) : Except Refusal Command :=
  match c.pending with
  | some (o, none) =>
    if c.closed then .error .unknownArgument else .ok { c with pending := some (o, some word) }
  | _ => .error .unknownArgument

def word (c : Command) (w : Text) : Except Refusal Command :=
  if c.closed then c.plain w
  else
    match w with
    | ['-', '-'] => .ok { c with closed := true }
    | '-' :: '-' :: t => c.long t
    | '-' :: l :: rest => c.letters (l :: rest)
    | w => c.plain w

/-- Takes the value of an option from the environment, unless the command line gave it. -/
def consult (environment : Environment) (c : Command) (o : ValueOption) : Except Refusal Command :=
  match c.value? o, o.fallback?.bind fun v => environment.lookup v with
  | none, some v => c.give o v
  | _, _ => .ok c

def options (c : Command) : Options where
  actual := c.value? .actual
  expected := c.value? .expected
  layout := (c.value? .layout).bind fun v => Layout.all.find? (·.name = v)
  rowMatch := (c.value? .rowMatch).bind fun v => RowMatch.all.find? (·.name = v)
  format := ((c.value? .outputFormat).bind fun v => OutputFormat.all.find? (·.name = v)).getD default
  config := c.value? .config
  verbose := c.verbose

end Command

/-- Reads the words of a command line, without the name of the program. -/
def Options.parse (environment : Environment) (words : List Text) : Except Refusal Options := do
  let c ← words.foldlM Command.word .start
  let c ← c.settle
  let c ← ValueOption.all.foldlM (Command.consult environment) c
  return c.options

end DumpCheck
