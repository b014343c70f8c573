import DumpCheck.Log.Pattern
import DumpCheck.Log.Record
import DumpCheck.Text.Blank

/-!
# Log filters

A filter says from which level on the records of a part of the program are shown. It is a list of
directives with commas between them, written `level`, `target=level` or `target[span{field}]=level`,
where most parts may be left out. Of the directives that apply to a record, the one with the longest
target decides (`Filter.shows`).
-/

namespace DumpCheck

/-- Records are shown down to a level, or not at all. -/
structure Directive where
  /-- The beginning of the targets that are meant. -/
  target : Text
  /-- The field that a record has to have. -/
  field : Option Text
  /-- It is about what goes on in a span, a named stretch of work. This program has no spans. -/
  inSpan : Bool
  level : Option Level
  deriving Repr, DecidableEq

abbrev Filter := List Directive

namespace Directive

def lowerAscii (t : Text) : Text :=
  t.map Char.toLower

/-- The number that a text of decimal digits, with or without a plus sign, stands for. -/
def number? (t : Text) : Option Nat :=
  let ds := (['+'].isPrefixOf? t).getD t
  if ds.isEmpty || !ds.all Char.isDigit then none
  else some (ds.foldl (fun n c => 10 * n + (c.toNat - '0'.toNat)) 0)

/-- A level by its name, in any case, or by a number: none at all for `off` and zero. -/
def level? (t : Text) : Option (Option Level) :=
  let levels : List Level := [.error, .warn, .info, .debug, .trace]
  if number? t = some 0 || lowerAscii t = "off".toList then some none
  else
    match levels.find? fun l => number? t = some l.rank || lowerAscii t = lowerAscii l.name with
    | some l => some (some l)
    | none => none

/-- Records of a target without further conditions. -/
def ofTarget (target : Text) (level : Option Level) : Directive :=
  ⟨target, none, false, level⟩

/-- A directive may begin with a letter, a digit, a dash, a colon or an underscore. -/
def mayBegin (c : Char) : Bool :=
  Text.isAlphanumeric c || c = '-' || c = ':' || c = '_'

/-- Characters, each beside the bytes of another text that stand at its place. -/
abbrev Paired := List (Char × List UInt8)

namespace Paired

/-- The characters of a text, each beside as many bytes as it has itself. -/
def ofText : Text → List UInt8 → Paired
  | [], _ => []
  | c :: rest, bytes => (c, bytes.take c.utf8Size) :: ofText rest (bytes.drop c.utf8Size)

def bytes (p : Paired) : List UInt8 :=
  p.flatMap Prod.snd

/-- What stands beside the characters in front of the first of `stops`, and the rest from there on. It is
no text if a character is cut. -/
def split (stops : Text) (p : Paired) : Option Text × Paired :=
  let goesOn := fun c : Char × List UInt8 => !stops.contains c.1
  (Text.ofUtf8? (bytes (p.takeWhile goesOn)), p.dropWhile goesOn)

end Paired

/-- Reads a level behind an equals sign, if there is one. A missing name means every level. `tail` goes on
behind what stands beside `p`. -/
def withLevel? (tail : List UInt8) (p : Paired) (d : Directive) : Option Directive :=
  match p with
  | [] => some d
  | ('=', _) :: rest => do
    let name ← Text.ofUtf8? (Paired.bytes rest ++ tail)
    (if name.isEmpty then some (some .trace) else level? name).map fun level => { d with level }
  | _ => none

/-- Reads the conditions behind an opening bracket. The value of a field is looked at in spans only. -/
def conditions? (target : Text) (tail : List UInt8) (p : Paired) : Option Directive := do
  let (span, rest) := Paired.split "]\x7b".toList p
  let span ← span
  match rest with
  | (']', _) :: rest => withLevel? tail rest ⟨target, none, true, some .trace⟩
  | _ :: rest =>
    let (condition, rest) := Paired.split "\x7d".toList rest
    match rest, (← condition).splitOn '=' with
    | _ :: (']', _) :: rest, [field] =>
      if field.isEmpty then none
      else withLevel? tail rest ⟨target, some field, !span.isEmpty, some .trace⟩
    | _ :: (']', _) :: rest, field :: value :: _ =>
      if Pattern.valid value then withLevel? tail rest ⟨target, some field, true, some .trace⟩ else none
    | _, _ => none
  | [] => none

/-- Reads one directive, of every level if it has no level part. Its form is that of the text without the
blanks about it; but its parts stand at the same places in the whole text, counted in bytes. So nothing has
the name that is written behind a blank. -/
def parse? (t : Text) : Option Directive :=
  let form := t.trim
  let tail := t.utf8.drop form.utf8.length
  match Paired.ofText form t.utf8 with
  | [] => none
  | ('[', _) :: rest => conditions? [] tail rest
  | (c, place) :: rest =>
    if mayBegin c then
      match Paired.split "=[".toList ((c, place) :: rest) with
      | (_, []) =>
        match level? t with
        | some level => some (ofTarget [] level)
        | none => some (ofTarget t (some .trace))
      | (some target, ('[', _) :: rest) => conditions? target tail rest
      | (some target, rest) => withLevel? tail rest (ofTarget target (some .trace))
      | (none, _) => none
    else none

def applies (d : Directive) (r : Record) : Bool :=
  !d.inSpan && d.target.isPrefixOf r.target && d.field.all (r.fieldNames.contains ·)

/-- The second directive wins over the first: its target is longer, or else it asks for a field and the
first does not, or for a later one in the order of names, or it says the same again. -/
def yields (d e : Directive) : Bool :=
  ((compare d.target.length e.target.length).then (compare d.field e.field)).isLE

end Directive

namespace Filter

/-- Reads a filter. Without any directive, only errors are shown. -/
def parse? (t : Text) : Option Filter :=
  if t.isEmpty then some [.ofTarget [] (some .error)]
  else
    match ((t.splitOn ',').filter (!·.isEmpty)).mapM Directive.parse? with
    | some [] => some [.ofTarget [] (some .error)]
    | other => other

/-- The directive that decides for a record: of those that apply, the one to which all others yield. -/
def deciding? (f : Filter) (r : Record) : Option Directive :=
  (f.filter (·.applies r)).foldl (fun best d =>
    match best with
    | none => some d
    | some b => if b.yields d then some d else some b) none

def shows (f : Filter) (r : Record) : Bool :=
  match (f.deciding? r).bind Directive.level with
  | some level => r.level.rank ≤ level.rank
  | none => false

/-- The filter that shows the records of this program down to a level. -/
def ownRecords (level : Level) : Filter :=
  [.ofTarget "resultcheck".toList (some level), .ofTarget "resultcheck_compare".toList (some level)]

/-- The filter for a run. Asking for more on the command line wins over the variable `RUST_LOG`; one that
is not a filter counts as not set. -/
def choose (verbose : Bool) (wanted : Option Text) : Filter :=
  if verbose then ownRecords .debug
  else (wanted.bind parse?).getD (ownRecords .warn)

end Filter
end DumpCheck
