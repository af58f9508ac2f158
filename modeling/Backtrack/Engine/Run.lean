import Backtrack.Engine.Step
import Backtrack.Strategy.Basic

/-!
Runs.  A run carries out the instructions of a strategy one after the other,
reports every answer, and ends with the tree that was built or with the first
failure.
-/

namespace Backtrack

namespace Engine

def runFrom (config : Config) : Strategy Unit → Engine → Job Answer (Except Error Builder)
  | .done _, e => .done (.ok e.builder)
  | .pause rest, e => .pause (runFrom config rest e)
  | .ask i rest, e =>
    Job.bind (step config e i).run fun
      | .error error => .done (.error error)
      | .ok (answer, e) => .emit answer (runFrom config (rest answer) e)

/-- A whole run.  The first unit is waited for before the strategy starts. -/
def run (config : Config) (strategy : Strategy Unit) : Job Answer (Except Error Builder) :=
  .fill 1 fun _ => runFrom config strategy (start config)

structure Outcome where
  answers : List Answer
  /-- How often the run had to wait. -/
  waits : Nat
  /-- None if the run was given up while it waited. -/
  result : Option (Except Error Document)

/-- Run over an input with a bounded number of polls, and finish the document. -/
def parse (config : Config) (strategy : Strategy Unit) (input : Buffer) (polls : Nat) :
    Outcome :=
  let driven := (run config strategy).drive polls input
  { answers := driven.events
    waits := driven.waits
    result := driven.result.map fun built => built.bind Builder.finish }

def parseBlocking (config : Config) (strategy : Strategy Unit) (input : Buffer) : Outcome :=
  let outcome := parse config strategy input 1
  { outcome with result := some (outcome.result.getD (.error .stalled)) }

end Engine

end Backtrack
