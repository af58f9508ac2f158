/-!
Limits and settings of a run.
-/

namespace Backtrack

/-- Stands for no limit: the largest number a limit can be. -/
def unlimited : Nat := UInt64.size - 1

structure Config where
  /-- How many frames may stand above the root. -/
  maxBranchDepth : Nat := 128
  /-- How many instructions a run may execute. -/
  maxInstructions : Nat := unlimited
  /-- How many characters a regular expression may look at. -/
  matchWindow : Nat := 1024
  /-- The name of the outermost region. -/
  initialSpan : String := "Bare"
  deriving DecidableEq, Repr

namespace Config

def disableBranchLimit (c : Config) : Config := { c with maxBranchDepth := unlimited }

end Config

end Backtrack
