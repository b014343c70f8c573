import DumpCheck.Mismatch

/-!
# Verdicts

How a comparison ends: with the totals of two dumps that match, or with their first mismatch.
-/

namespace DumpCheck

/-- How many blocks match, and how many rows they have on each side. -/
structure Summary where
  queries : Nat
  rows : Nat
  deriving Repr, DecidableEq

inductive Verdict
  | agree (totals : Summary)
  /-- The dumps do not match, and this is the first difference. -/
  | differ (m : Mismatch)
  deriving Repr, DecidableEq

namespace Verdict

def matched : Verdict → Bool
  | agree _ => true
  | differ _ => false

def mismatch? : Verdict → Option Mismatch
  | agree _ => none
  | differ m => some m

/-- The number of the failing block, if there is one. -/
def queryNumber (v : Verdict) : Option Nat :=
  v.mismatch?.bind Mismatch.queryNumber

def message : Verdict → Text
  | agree _ => "Results Matched Successfully".toList
  | differ m => m.message

end Verdict
end DumpCheck
