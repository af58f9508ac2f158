import Backtrack.Config
import Backtrack.Tag.Basic

/-!
What a strategy can find out about the grammar it works for.
-/

namespace Backtrack

structure Grammar where
  name : String
  /-- Whether nodes with this tag may be lifted out of the node around them, as
  trivia between tokens usually is. -/
  isHoistable : OpenTag → Bool := fun _ => false

/-- A grammar with the settings of a run. -/
structure Context where
  grammar : Grammar
  config : Config := {}

namespace Context

def isHoistable (c : Context) (tag : OpenTag) : Bool := c.grammar.isHoistable tag

end Context

end Backtrack
