import Backtrack.Text.Quoted

/-!
Everything that can go wrong.  Each failure says what was attempted; the wording
of all of them is in one place per kind.
-/

namespace Backtrack

inductive SourceError where
  /-- The input ends before the units asked for. -/
  | pastEnd (offset requested length : Nat)
  /-- The units asked for have not been delivered yet. -/
  | needsInput
  | alreadyHolding
  | notHolding
  deriving DecidableEq, Repr

namespace SourceError

def message : SourceError → String
  | .pastEnd offset requested length =>
    "cannot advance " ++ toString requested ++ " units from offset " ++ toString offset ++
      ": input ends at " ++ toString length
  | .needsInput => "advance needs input that has not arrived yet"
  | .alreadyHolding => "cursor is already holding a unit"
  | .notHolding => "cursor is not holding a unit"

end SourceError

inductive BuildError where
  | doctypeAfterRoot
  | rootClosed
  /-- A node other than the root was opened with no slot to put it in. -/
  | missingReference (nodeType : String)
  | propertyBound (name : String)
  | noOpenNode (action : String)
  | noPendingReference (action : String)
  | nothingToShift
  | alreadyShifted
  | incomplete (openNodes : Nat)
  deriving DecidableEq, Repr

namespace BuildError

def message : BuildError → String
  | .doctypeAfterRoot => "doctype must come before the root node"
  | .rootClosed => "the root node is already closed"
  | .missingReference nodeType => "cannot open `" ++ nodeType ++ "` without a pending reference"
  | .propertyBound name => "property `" ++ name ++ "` is already bound"
  | .noOpenNode action => action ++ " needs an open node"
  | .noPendingReference action => action ++ " needs a pending reference"
  | .nothingToShift => "shift needs a bound property on the open node"
  | .alreadyShifted => "a shifted node is already held"
  | .incomplete openNodes =>
    "document is incomplete: " ++ toString openNodes ++ " nodes still open"

end BuildError

inductive FrameAction where
  | branch
  | accept
  | reject
  deriving DecidableEq, Repr

namespace FrameAction

def word : FrameAction → String
  | .branch => "branch"
  | .accept => "accept"
  | .reject => "reject"

end FrameAction

inductive Error where
  | notOnTop (action : FrameAction)
  | acceptedRoot
  | rejectedRoot
  | spanUnderflow
  /-- A closer was opened while no construct waits for one. -/
  | unexpectedCloser (nodeType : String)
  | literalFailed (text : String)
  | gapFailed
  /-- The root closed before the input was used up. -/
  | inputNotConsumed
  /-- The root closed while constructs wait for their closer. -/
  | unbalancedAtEnd (remaining : Nat)
  | unknownInstruction (verb : String)
  | branchLimitExceeded (depth limit : Nat)
  | instructionLimitExceeded (executed limit : Nat)
  /-- A run that may not wait had to. -/
  | stalled
  | build (e : BuildError)
  | source (e : SourceError)
  deriving DecidableEq, Repr

namespace Error

def message : Error → String
  | .notOnTop action => "cannot " ++ action.word ++ " a state that is not on top"
  | .acceptedRoot => "accepted the root state"
  | .rejectedRoot => "rejected the root state"
  | .spanUnderflow => "no lexical context to pop"
  | .unexpectedCloser nodeType =>
    "balancer `" ++ nodeType ++ "` has no open balanced construct"
  | .literalFailed text => "failed to advance literal " ++ Text.quote text
  | .gapFailed => "failed to advance gap"
  | .inputNotConsumed => "parser failed to consume input"
  | .unbalancedAtEnd remaining =>
    "parser did not match all balanced nodes: " ++ toString remaining ++ " still open"
  | .unknownInstruction verb => "unexpected call of \x7bverb: " ++ verb ++ "\x7d"
  | .branchLimitExceeded depth limit =>
    "branch limit exceeded: depth " ++ toString depth ++ " > limit " ++ toString limit
  | .instructionLimitExceeded executed limit =>
    "instruction limit exceeded: executed " ++ toString executed ++ " > limit " ++
      toString limit
  | .stalled => "interpreter stalled waiting on a pending source or strategy"
  | .build e => e.message
  | .source e => e.message

end Error

end Backtrack
