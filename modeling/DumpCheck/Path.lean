import DumpCheck.Text.Basic

/-!
# Paths

A path is a text whose parts are separated by slashes. Empty parts and `.` lead nowhere, but they are
kept as they were written. `Path.parent` and `Path.join` find a file that is named relative to another.
-/

namespace DumpCheck
namespace Path

def isAbsolute (p : Text) : Bool :=
  p.head? = some '/'

/-- The parts of a path between its slashes. -/
def parts (p : Text) : List Text :=
  p.splitOn '/'

/-- A part that leads nowhere. -/
def isTrivial (part : Text) : Bool :=
  part.isEmpty || part = ['.']

/-- The parts with a slash between each two. -/
def ofParts (ps : List Text) : Text :=
  ['/'].intercalate ps

/-- What a path starts from: the root, or the working directory if it is written as `.`. -/
def start (p : Text) : Text :=
  match p with
  | '/' :: _ => ['/']
  | ['.'] => ['.']
  | '.' :: '/' :: _ => ['.']
  | _ => []

/-- The path without its last part, and without what leads nowhere before that part. A path of no more
than its start has an empty parent. -/
def parent (p : Text) : Text :=
  let s := start p
  match (parts (p.drop s.length)).reverse.dropWhile isTrivial with
  | [] => []
  | _ :: before => s ++ ofParts (before.dropWhile isTrivial).reverse

/-- The path `p` as seen from `base`. An absolute path stays as it is. -/
def join (base p : Text) : Text :=
  if isAbsolute p || base.isEmpty then p
  else if base.getLast? = some '/' then base ++ p
  else base ++ '/' :: p

end Path
end DumpCheck
