import Backtrack.Error

/-!
The stack of attempts.  At the bottom is a root frame that is never retired.
Every frame above it is one attempt, which ends by being accepted into the frame
below or by being rejected.  Only the frame on top may be branched from, accepted
or rejected.

The same rules serve three payloads: the frames of a run, the frames of a
tokenizer, and the journals of changes that let a tree under construction be
taken back.
-/

namespace Backtrack

/-- Names a frame.  A name is never used for a second frame of the same stack. -/
structure FrameId where
  index : Nat
  deriving DecidableEq, Repr

namespace FrameId

def root : FrameId := ⟨0⟩

end FrameId

inductive Status where
  | suspended
  | active
  | accepted
  | rejected
  deriving DecidableEq, Repr

namespace Status

def isRetired : Status → Bool
  | .accepted | .rejected => true
  | .suspended | .active => false

end Status

/-- What is known of a frame beside its payload. -/
structure FrameInfo where
  id : FrameId
  status : Status
  parent : Option FrameId
  /-- How many frames stand between this one and the root, itself included. -/
  depth : Nat
  deriving DecidableEq, Repr

namespace FrameInfo

def root : FrameInfo := { id := .root, status := .suspended, parent := none, depth := 0 }

end FrameInfo

/-- What a frame carries: how a new attempt starts from it, and how an accepted
attempt is folded back into it. -/
class Payload (α : Type) where
  fork : α → α
  merge : α → α → α

structure Frame (α : Type) where
  info : FrameInfo
  payload : α
  deriving Repr

/-- The frame retired last is remembered; those retired before it are forgotten,
so a long run of attempts takes no more room than the attempts still open. -/
structure FrameStack (α : Type) where
  base : Frame α
  /-- The frames above the root, innermost first. -/
  above : List (Frame α) := []
  retired : Option FrameInfo := none
  /-- The name of the next frame. -/
  next : Nat := 1
  deriving Repr

namespace FrameStack

variable {α : Type}

def ofRoot (payload : α) : FrameStack α := { base := { info := .root, payload } }

/-- All live frames, innermost first. -/
def live (s : FrameStack α) : List (Frame α) := s.above ++ [s.base]

def top (s : FrameStack α) : Frame α := s.above.headD s.base

def topId (s : FrameStack α) : FrameId := s.top.info.id

/-- The number of frames above the root. -/
def depth (s : FrameStack α) : Nat := s.above.length

def current (s : FrameStack α) : α := s.top.payload

def modify (s : FrameStack α) (f : α → α) : FrameStack α :=
  match s.above with
  | [] => { s with base := { s.base with payload := f s.base.payload } }
  | frame :: rest => { s with above := { frame with payload := f frame.payload } :: rest }

/-! ## Questions about frames -/

/-- What is known of a frame that is live or was retired last. -/
def info? (s : FrameStack α) (id : FrameId) : Option FrameInfo :=
  match s.live.find? (fun frame => frame.info.id == id) with
  | some frame => some frame.info
  | none => s.retired.filter (fun info => info.id == id)

def status? (s : FrameStack α) (id : FrameId) : Option Status := (s.info? id).map (·.status)

def parent? (s : FrameStack α) (id : FrameId) : Option FrameId :=
  (s.info? id).bind (·.parent)

def depth? (s : FrameStack α) (id : FrameId) : Option Nat := (s.info? id).map (·.depth)

/-! ## Moves -/

def setStatus (s : FrameStack α) (status : Status) : FrameStack α :=
  match s.above with
  | [] => { s with base := { s.base with info := { s.base.info with status } } }
  | frame :: rest =>
    { s with above := { frame with info := { frame.info with status } } :: rest }

def checkTop (s : FrameStack α) (id : FrameId) (action : FrameAction) : Except Error Unit :=
  if id = s.topId ∧ (s.status? id).any (!·.isRetired) then .ok ()
  else .error (.notOnTop action)

def branch [Payload α] (s : FrameStack α) (id : FrameId) :
    Except Error (FrameStack α × FrameId) := do
  s.checkTop id .branch
  let child : FrameId := ⟨s.next⟩
  let info : FrameInfo :=
    { id := child, status := .active, parent := some id, depth := s.depth + 1 }
  let frame : Frame α := { info, payload := Payload.fork s.current }
  let s := s.setStatus .suspended
  return ({ s with above := frame :: s.above, next := s.next + 1 }, child)

/-- Take the frame on top off the stack.  The frame below is on top again; the
root stays suspended even then. -/
def retire (s : FrameStack α) (id : FrameId) (action : FrameAction) (status : Status) :
    Except Error (FrameStack α × FrameId × α) := do
  s.checkTop id action
  match s.above with
  | [] => throw (.notOnTop action)
  | frame :: rest =>
    let parent := frame.info.parent.getD .root
    let s := { s with above := rest, retired := some { frame.info with status } }
    return (if parent = .root then s else s.setStatus .active, parent, frame.payload)

def accept [Payload α] (s : FrameStack α) (id : FrameId) :
    Except Error (FrameStack α × FrameId) := do
  if id = .root then throw .acceptedRoot
  let (s, parent, child) ← s.retire id .accept .accepted
  return (s.modify (Payload.merge · child), parent)

/-- Drop `id` and return the frame below, with the payload that was dropped. -/
def reject (s : FrameStack α) (id : FrameId) : Except Error (FrameStack α × FrameId × α) := do
  if id = .root then throw .rejectedRoot
  s.retire id .reject .rejected

end FrameStack

end Backtrack
