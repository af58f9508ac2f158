import Backtrack.Config
import Backtrack.Input.Cursor
import Backtrack.Instruction
import Backtrack.Region

/-!
The state of a run: the tree under construction and a stack of frames, each with
its own place in the input and its own regions.  The two branch, accept and
reject together.
-/

namespace Backtrack

namespace Engine

/-- What a frame of a run carries. -/
structure Scope where
  cursor : Cursor := {}
  regions : Regions
  /-- The language of the innermost node that declared one. -/
  language : Option String := none
  deriving DecidableEq, Repr

/-- An attempt starts as a copy, and an accepted one takes the place of what it
was copied from. -/
instance : Payload Scope where
  fork scope := scope
  merge _ child := child

end Engine

structure Engine where
  builder : Builder := .start
  frames : FrameStack Engine.Scope
  frame : FrameId := .root
  /-- How many instructions have been executed. -/
  executed : Nat := 0

namespace Engine

def start (config : Config) : Engine :=
  { frames := .ofRoot { regions := .ofName config.initialSpan } }

def scope (e : Engine) : Scope := e.frames.current

def modifyScope (e : Engine) (f : Scope → Scope) : Engine :=
  { e with frames := e.frames.modify f }

def setCursor (e : Engine) (cursor : Cursor) : Engine :=
  e.modifyScope fun s => { s with cursor }

def setRegions (e : Engine) (regions : Regions) : Engine :=
  e.modifyScope fun s => { s with regions }

/-- The current frame, as far as the input is known. -/
def view (e : Engine) (b : Buffer) : StateView where
  id := e.frame
  status := (e.frames.status? e.frame).getD .suspended
  depth := (e.frames.depth? e.frame).getD 0
  parent := e.frames.parent? e.frame
  lexicalContext := e.scope.regions.spans.context
  spans := e.scope.regions.spans.names
  balanced := e.scope.regions.balanced.length
  offset := e.scope.cursor.offset
  holding := e.scope.cursor.holding
  done := e.scope.cursor.isDone b
  language := e.scope.language
  nodeType := e.builder.node?.bind (·.tag.nodeType)
  pathDepth := if e.builder.path.isEmpty then none else some e.builder.path.depth
  lastResult := e.builder.last?

end Engine

end Backtrack
