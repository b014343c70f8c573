import DumpCheck.Options
import DumpCheck.Terminal

/-!
# Help texts

What is printed when help or the version is asked for. Each option is described once, by an `Entry`;
the short text puts an entry on one line and the long text gives it a paragraph. Both show the values
of the environment variables that stand in for options. The names of options are set in bold for a
terminal; `Refusal.answer?` is what is shown where there is none.
-/

namespace DumpCheck
namespace Help

structure Entry where
  /-- How the option is written. -/
  usage : Text
  about : Text
  /-- What only the long text says. -/
  more : Option Text
  /-- The values that it may have, and what they mean. -/
  choices : List (Text × Text)
  /-- The value that it has otherwise, unless `about` tells it. -/
  otherwise : Option Text
  /-- The environment variable that stands in for it, with its value. -/
  variableValue : Option (Text × Text)

def layoutAbout : Layout → Text
  | .underlined => "Header, separator, rows, separator".toList
  | .trailing => "Header, rows, separator".toList

def rowMatchAbout : RowMatch → Text
  | .sorted => "Sort rows and compare in order".toList
  | .multiset => "Compare row occurrence counts".toList

def formatAbout : OutputFormat → Text
  | .text => "One human-readable line".toList
  | .json => "A single JSON object".toList

/-- The word for the value of an option. -/
def placeholder : ValueOption → Text
  | .actual | .expected | .config => "PATH".toList
  | .layout => "LAYOUT".toList
  | .rowMatch => "ROW_MATCH".toList
  | .outputFormat => "OUTPUT_FORMAT".toList

def about : ValueOption → Text
  | .actual => "Result dump produced by the engine under test [default: result.txt]".toList
  | .expected => "Reference result dump [default: answer.txt]".toList
  | .layout => "How separator lines frame each query block [default: underlined]".toList
  | .rowMatch => "How rows within a block are matched".toList
  | .outputFormat => "Report format".toList
  | .config => "TOML file with default paths and comparison options".toList

def layoutMore : Text :=
  "Dumps written as header, rows, then one `-` line per result set need trailing; ".toList ++
    "with underlined, a query that returns no rows shifts every later block.".toList

def valueEntry (environment : Environment) (o : ValueOption) : Entry where
  usage :=
    "      ".toList ++ Terminal.bold ("--".toList ++ o.name) ++ " <".toList ++ placeholder o ++ ">".toList
  about := about o
  more := if o = .layout then some layoutMore else none
  choices := match o with
    | .layout => Layout.all.map fun l => (l.name, layoutAbout l)
    | .rowMatch => RowMatch.all.map fun m => (m.name, rowMatchAbout m)
    | .outputFormat => OutputFormat.all.map fun f => (f.name, formatAbout f)
    | .actual | .expected | .config => []
  otherwise := if o = .outputFormat then some (default : OutputFormat).name else none
  variableValue := o.fallback?.map fun v => (v, (environment.lookup v).getD [])

/-- What a flag does. The short text says of help where there is more, and the long one where there is
less. -/
def flagAbout (long : Bool) : Flag → Text
  | .verbose => "Log block-level progress to stderr".toList
  | .help =>
    "Print help (see ".toList ++ (if long then "a summary with '-h')" else "more with '--help')").toList
  | .version => "Print version".toList

def flagEntry (long : Bool) (f : Flag) : Entry where
  usage :=
    "  ".toList ++ Terminal.bold ['-', f.letter] ++ ", ".toList ++ Terminal.bold ("--".toList ++ f.name)
  about := flagAbout long f
  more := none
  choices := []
  otherwise := none
  variableValue := none

/-- All entries, in the order in which they are shown. -/
def entries (environment : Environment) (long : Bool) : List Entry :=
  ValueOption.all.map (valueEntry environment) ++ Flag.all.map (flagEntry long)

def columns (t : Text) : Nat :=
  (Terminal.visible t).length

def spaces (n : Nat) : Text := List.replicate n ' '

/-- A text filled up with spaces to a width. -/
def padTo (width : Nat) (t : Text) : Text :=
  t ++ spaces (width - columns t)

/-- A text whose lines but the first begin in a column. -/
def indented (column : Nat) (t : Text) : Text :=
  ('\n' :: spaces column).intercalate (t.splitOn '\n')

/-- The notes on where else a value comes from. -/
def Entry.notes (e : Entry) : List Text :=
  (e.variableValue.map fun (name, v) => "[env: ".toList ++ name ++ '=' :: v ++ "]".toList).toList ++
    (e.otherwise.map fun v => "[default: ".toList ++ v ++ "]".toList).toList

/-- The line of an entry, with the explanation in the column behind `width`. -/
def Entry.short (width : Nat) (e : Entry) : Text :=
  let possible := if e.choices.isEmpty then [] else
    ["[possible values: ".toList ++ ", ".toList.intercalate (e.choices.map Prod.fst) ++ "]".toList]
  padTo width e.usage ++ indented width ([' '].intercalate (e.about :: e.notes ++ possible))

/-- The column in which the paragraphs of the long text begin. -/
def indent : Nat := 10

/-- The lines on the values of an option. -/
def choiceLines (choices : List (Text × Text)) : List Text :=
  let width := (choices.map fun (name, _) => name.length).foldl max 0 + 2
  choices.map fun (name, meaning) =>
    spaces indent ++ "- ".toList ++ padTo width (name ++ [':']) ++ meaning

/-- The paragraph of an entry. Parts are set apart by a line with the indent alone, but the values of an
option by an empty line. -/
def Entry.long (e : Entry) : List Text :=
  let part := fun t => [spaces indent, spaces indent ++ indented indent t]
  [e.usage, spaces indent ++ e.about] ++ (e.more.map part).getD [] ++
    (if e.choices.isEmpty then [] else
      [] :: (spaces indent ++ "Possible values:".toList) :: choiceLines e.choices) ++ e.notes.flatMap part

/-- What both help texts begin with. -/
def opening : List Text :=
  ["Compare query result dumps".toList, [], "Usage: resultcheck [OPTIONS]".toList, [], "Options:".toList]

/-- The help text with one line for each option. -/
def short (environment : Environment) : Text :=
  let es := entries environment false
  let width := (es.map fun e => columns e.usage).foldl max 0 + 2
  (opening ++ es.map (Entry.short width)).flatMap Text.line

/-- The help text with a paragraph for each option. -/
def long (environment : Environment) : Text :=
  let paragraphs := (entries environment true).map Entry.long
  (opening ++ [[]].intercalate paragraphs).flatMap Text.line

def version : Text :=
  .line "resultcheck 0.1.0".toList

end Help

namespace Refusal

/-- What is shown in answer to a question for help or the version. -/
def answer? (environment : Environment) : Refusal → Option Text
  | help true => some (Terminal.visible (Help.long environment))
  | help false => some (Terminal.visible (Help.short environment))
  | version => some Help.version
  | invalidValue | unknownArgument | argumentConflict | tooManyValues => none

def message : Refusal → Text
  | invalidValue => "an option has no value, or one that it does not take".toList
  | unknownArgument => "unexpected argument".toList
  | argumentConflict => "an option is given more than once".toList
  | tooManyValues => "a value is given to an option that takes none".toList
  | help _ | version => []

end Refusal
end DumpCheck
