import DumpCheck.Comparison
import DumpCheck.Config
import DumpCheck.Log.Record
import DumpCheck.Options

/-!
# Settings of a run

Each setting has sources of its own: the command line with its environment, then the configuration
file, then a default (`Settings.resolve`).
-/

namespace DumpCheck

structure Settings where
  actual : Text
  expected : Text
  layout : Layout
  rowMatch : RowMatch
  deriving Repr, DecidableEq

namespace Settings

/-- The dump of the engine under test, if none is named. -/
def defaultActual : Text := "result.txt".toList

/-- The reference dump, if none is named. -/
def defaultExpected : Text := "answer.txt".toList

/-- The options win over the configuration, and the configuration over the defaults. -/
def resolve (o : Options) (c : Config) : Settings where
  actual := (o.actual.or c.actual).getD defaultActual
  expected := (o.expected.or c.expected).getD defaultExpected
  layout := (o.layout.or c.layout).getD default
  rowMatch := (o.rowMatch.or c.rowMatch).getD default

/-- The settings for some options, with the configuration file that they name, if they name one. -/
def load (files : Files) (o : Options) : Except ConfigError Settings :=
  match o.config with
  | none => .ok (resolve o .empty)
  | some path => (Config.load files path).map (resolve o)

def comparator (s : Settings) : Comparator :=
  ⟨s.layout, s.rowMatch⟩

/-- The log record that a comparison begins with. -/
def record (s : Settings) : Record where
  level := .debug
  target := "resultcheck::run".toList
  message := "comparing result dumps".toList
  fields := [("actual".toList, s.actual), ("expected".toList, s.expected), ("layout".toList, s.layout.title),
    ("row_match".toList, s.rowMatch.title)]

end Settings

/-- The comparator as it is shown to developers. -/
def Comparator.text (c : Comparator) : Text :=
  "Comparator \x7b layout: ".toList ++ c.layout.title ++ ", row_match: ".toList ++ c.rowMatch.title ++
    " \x7d".toList

end DumpCheck
