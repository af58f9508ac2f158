import Backtrack.Builder.Basic
import Backtrack.Pattern

/-!
Instructions and answers: what a strategy can ask of the engine, and what it
hears back.
-/

namespace Backtrack

inductive Instruction where
  /-- Add a terminal to the document. -/
  | advance (t : Terminal)
  /-- Try a pattern at the current position.  Nothing is consumed. -/
  | test (p : Pattern)
  | branch
  | accept
  | reject
  | write (text : String)
  | bindAttribute (key : String) (value : Value)
  | getState
  /-- A verb the engine does not know. -/
  | unknown (verb : String)

namespace Instruction

def verb : Instruction → String
  | .advance _ => "advance"
  | .test _ => "match"
  | .branch => "branch"
  | .accept => "accept"
  | .reject => "reject"
  | .write _ => "write"
  | .bindAttribute _ _ => "bindAttribute"
  | .getState => "getState"
  | .unknown verb => verb

end Instruction

/-- A frame of a run as a strategy sees it. -/
structure StateView where
  id : FrameId
  status : Status
  depth : Nat
  parent : Option FrameId
  /-- The name of the innermost region. -/
  lexicalContext : String
  /-- The names of all regions, outermost first. -/
  spans : List String
  /-- How many constructs wait for their closer. -/
  balanced : Nat
  offset : Nat
  holding : Bool
  /-- Whether the input is used up. -/
  done : Bool
  language : Option String
  /-- The type of the open node. -/
  nodeType : Option String
  /-- The depth of the path.  None outside the document. -/
  pathDepth : Option Nat
  lastResult : Option Terminal
  deriving DecidableEq, Repr

inductive Answer where
  | output (e : Emitted)
  | tokens (r : TokenRange)
  | noMatch
  | state (v : StateView)
  deriving DecidableEq, Repr

namespace Answer

def output? : Answer → Option Emitted
  | .output e => some e
  | _ => none

def tokens? : Answer → Option TokenRange
  | .tokens r => some r
  | _ => none

def state? : Answer → Option StateView
  | .state v => some v
  | _ => none

end Answer

/-- The answer, if it is of the kind that the instruction asks for.  An unknown
verb takes any answer. -/
def Instruction.reply? (i : Instruction) (a : Answer) : Option Answer :=
  match i with
  | .advance _ | .write _ | .bindAttribute _ _ => a.output?.map .output
  | .test _ => a.tokens?.map .tokens
  | .branch | .accept | .reject | .getState => a.state?.map .state
  | .unknown _ => some a

end Backtrack
