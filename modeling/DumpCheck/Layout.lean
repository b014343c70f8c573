import DumpCheck.Text.Basic

/-!
# Layouts of a dump

How separator lines frame a block, and the part that each line plays. The part follows from the
layout and from which lines are separators on both sides (`Layout.role`, `Layout.roles`).
-/

namespace DumpCheck

/-- How separator lines frame each block. -/
inductive Layout
  /-- Header, separator, rows, separator. -/
  | underlined
  /-- Header, rows, separator. -/
  | trailing
  deriving Repr, DecidableEq

/-- What a reader of a dump has just passed. -/
inductive Phase
  /-- The beginning, or the end of a block: a header comes next. -/
  | atHeader
  | afterHeader
  /-- The underline of a header, or a row. -/
  | inRows
  deriving Repr, DecidableEq

/-- The part that a line plays in its block. -/
inductive Role
  | header | underline | row | closer
  deriving Repr, DecidableEq

/-- A block of a dump, with the separator lines that frame it. -/
structure Block where
  header : Text
  underline : Text
  rows : List Text
  closer : Text
  deriving Repr, DecidableEq

namespace Layout

instance : Inhabited Layout := ⟨underlined⟩

def all : List Layout := [underlined, trailing]

def name : Layout → Text
  | underlined => "underlined".toList
  | trailing => "trailing".toList

/-- The name with a capital, as logs show it. -/
def title : Layout → Text
  | underlined => "Underlined".toList
  | trailing => "Trailing".toList

/-- The part of a line, given what came before it and whether it is a separator on both sides. -/
def role : Layout → Phase → (shared : Bool) → Role
  | _, .atHeader, _ => .header
  | underlined, .afterHeader, true => .underline
  | _, _, true => .closer
  | _, _, false => .row

/-- What has been passed after a line with this part. A header that is itself a shared separator is
followed by another header in the trailing layout. -/
def after : Layout → (shared : Bool) → Role → Phase
  | trailing, true, .header => .atHeader
  | _, _, .header => .afterHeader
  | _, _, .underline => .inRows
  | _, _, .row => .inRows
  | _, _, .closer => .atHeader

/-- The parts of lines of which it is known whether they are shared separators. -/
def roles (layout : Layout) (phase : Phase) : List Bool → List Role
  | [] => []
  | shared :: rest =>
    let r := layout.role phase shared
    r :: layout.roles (layout.after shared r) rest

/-- The lines of a block in this layout; the trailing layout has no place for the underline. -/
def frame (layout : Layout) (b : Block) : List Text :=
  match layout with
  | underlined => b.header :: b.underline :: b.rows ++ [b.closer]
  | trailing => b.header :: b.rows ++ [b.closer]

def write (layout : Layout) (blocks : List Block) : List Text :=
  blocks.flatMap layout.frame

end Layout
end DumpCheck
