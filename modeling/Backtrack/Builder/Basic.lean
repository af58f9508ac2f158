import Backtrack.Builder.State
import Backtrack.FrameStack

/-!
Building a tree speculatively.  There is one tree under construction; a frame
carries only the journal of what was changed while it was on top.  Accepting a
frame hands its journal to the frame below, and rejecting it takes the changes
back.
-/

namespace Backtrack

/-- The changes made while a frame was on top, latest first. -/
structure Journal where
  undos : List Undo := []
  deriving Repr

instance : Payload Journal where
  fork _ := {}
  merge parent child := { undos := child.undos ++ parent.undos }

/-- What the builder answers to a change. -/
inductive Emitted where
  | tag (t : Terminal)
  | written (text : String)
  | attribute (key : String) (value : Value)
  deriving DecidableEq, Repr

structure PathSegment where
  id : PathId
  reference : Option Reference
  deriving DecidableEq, Repr

/-- The position in the tree, root first.  A reference that waits for its value
is a segment of its own. -/
structure Path where
  segments : List PathSegment := []
  deriving DecidableEq, Repr

namespace Path

/-- True before the root opens and after it closes. -/
def isEmpty (p : Path) : Bool := p.segments.isEmpty

/-- The depth of the innermost segment.  The root has depth 0. -/
def depth (p : Path) : Nat := p.segments.length - 1

def at? (p : Path) (depth : Nat) : Option PathSegment := p.segments[depth]?

end Path

structure Builder where
  state : BuildState := {}
  journal : FrameStack Journal := .ofRoot {}
  frame : FrameId := .root
  /-- The name of the next segment.  It is never taken back. -/
  nextId : Nat := 0
  deriving Repr

namespace Builder

def start : Builder := {}

/-! ## What is built -/

def written (b : Builder) : String := b.state.written

def root? (b : Builder) : Option Node := b.state.root

/-- The open node.  None while a reference waits for its value. -/
def node? (b : Builder) : Option Node := b.state.segments.head?.bind (·.node)

def parentNode? (b : Builder) : Option Node := b.state.segments[1]?.bind (·.node)

def last? (b : Builder) : Option Terminal := b.state.last

def path (b : Builder) : Path :=
  { segments := b.state.segments.reverse.map fun s => { id := s.id, reference := s.reference } }

/-- The finished document.  The root must have been opened and closed. -/
def finish (b : Builder) : Except Error Document :=
  if b.state.segments.isEmpty then
    match b.state.root with
    | none => .error (.build (.incomplete 0))
    | some root => .ok { doctype := b.state.doctype, root, written := b.state.written }
  else .error (.build (.incomplete b.state.segments.length))

/-! ## Changes

A change that fails may have used up a segment name.  Every change therefore
returns the builder beside its answer. -/

/-- Take note of a change, unless no frame could ever take it back. -/
def record (b : Builder) (undo : Undo) : Builder :=
  if b.journal.depth = 0 then b
  else { b with journal := b.journal.modify fun j => { undos := undo :: j.undos } }

def commit (b : Builder) (change : BuildState × Undo) : Builder :=
  record { b with state := change.1 } change.2

def advance (b : Builder) (t : Terminal) : Builder × Except Error Emitted :=
  let id : PathId := ⟨b.nextId⟩
  let named := if b.state.takesId t then { b with nextId := b.nextId + 1 } else b
  match b.state.apply id t with
  | (state, .error e) => ({ named with state }, .error (.build e))
  | (state, .ok undo) =>
    let b := named.commit (state, undo)
    (b.commit (b.state.setLast t), .ok (.tag t))

def write (b : Builder) (text : String) : Builder × Except Error Emitted :=
  (b.commit (b.state.write text), .ok (.written text))

def bindAttribute (b : Builder) (key : String) (value : Value) :
    Builder × Except Error Emitted :=
  match b.state.bindAttribute key value with
  | .error e => (b, .error (.build e))
  | .ok change => (b.commit change, .ok (.attribute key value))

/-! ## Frames -/

def branch (b : Builder) : Builder × Except Error Unit :=
  match b.journal.branch b.frame with
  | .error e => (b, .error e)
  | .ok (journal, frame) => ({ b with journal, frame }, .ok ())

/-- What is accepted into the root can no longer be taken back, so its journal is
dropped. -/
def accept (b : Builder) : Builder × Except Error Unit :=
  match b.journal.accept b.frame with
  | .error e => (b, .error e)
  | .ok (journal, frame) =>
    let journal := if frame = .root then journal.modify (fun _ => {}) else journal
    ({ b with journal, frame }, .ok ())

/-- The journal on top is taken out before the frame is dropped. -/
def reject (b : Builder) : Builder × Except Error Unit :=
  let taken := b.journal.current
  let emptied := b.journal.modify fun _ => {}
  match emptied.reject b.frame with
  | .error e => ({ b with journal := emptied }, .error e)
  | .ok (journal, frame, _) =>
    let b := { b with journal, frame }
    match b.state.revertAll taken.undos with
    | .error e => (b, .error (.build e))
    | .ok state => ({ b with state }, .ok ())

end Builder

end Backtrack
