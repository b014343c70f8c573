import DumpCheck.Text.CaseTables
import DumpCheck.Text.Basic

/-!
# Lowercase

`Text.lowercase` is the full lowercase mapping of Unicode. Every character is mapped by itself but
for the capital sigma, which is written `ς` at the end of a word and `σ` elsewhere. A word ends
there if, case-ignorable characters left out, a cased character comes before and none comes after.
-/

namespace DumpCheck
namespace Text

def isCased (c : Char) : Bool :=
  CodeRange.has casedRanges c.toNat

def isCaseIgnorable (c : Char) : Bool :=
  CodeRange.has caseIgnorableRanges c.toNat

/-- The first character that is not case-ignorable exists and is cased. -/
def meetsCased (t : Text) : Bool :=
  match t.dropWhile isCaseIgnorable with
  | [] => false
  | c :: _ => isCased c

/-- The lowercase of a character outside any context; only U+0130 has two characters. -/
def lowercaseChar (c : Char) : Text :=
  if c = 'İ' then ['i', '\u0307']
  else [((CaseRun.lower? lowerRuns c.toNat).map Char.ofNat).getD c]

/-- The lowercase of a capital sigma between `before`, read leftwards, and `after`. -/
def lowercaseSigma (before after : Text) : Char :=
  if meetsCased before && !meetsCased after then 'ς' else 'σ'

/-- The lowercase of a character between `before`, read leftwards, and `after`. -/
def lowercaseAt (before : Text) (c : Char) (after : Text) : Text :=
  if c = 'Σ' then [lowercaseSigma before after] else lowercaseChar c

/-- The lowercase of a text that stands behind `before`, read leftwards. -/
def lowercaseAfter (before : Text) : Text → Text
  | [] => []
  | c :: after => lowercaseAt before c after ++ lowercaseAfter (c :: before) after

def lowercase (t : Text) : Text :=
  lowercaseAfter [] t

end Text
end DumpCheck
