import Backtrack.Tree.Document

/-!
A tree under construction.  The state is the path of open nodes from the root to
the current position; a reference that has no value yet stands on the path as a
segment without a node.  Every change of the state comes with an undo that takes
it back, which is what makes a branch cost what it changed and not the size of
the tree.
-/

namespace Backtrack

/-- Names a segment of the path.  A name is never used for a second segment of
the same builder. -/
structure PathId where
  index : Nat
  deriving DecidableEq, Repr

structure Segment where
  id : PathId
  /-- The reference that leads here.  None for the root. -/
  reference : Option Reference := none
  /-- None while the reference waits for its value. -/
  node : Option Node := none
  /-- The slot of the node that was bound last, which a shift takes from. -/
  lastBound : Option Reference := none
  deriving Repr

structure BuildState where
  doctype : Option Attributes := none
  /-- The path, innermost first. -/
  segments : List Segment := []
  /-- The root once it is closed. -/
  root : Option Node := none
  /-- A value taken out of its slot by a shift, waiting for a gap. -/
  held : Option Property := none
  /-- The last terminal. -/
  last : Option Terminal := none
  written : String := ""
  deriving Repr

/-- What takes back one change. -/
inductive Undo where
  | last (previous : Option Terminal)
  | doctype (previous : Option Attributes)
  | openRoot
  | openPending
  | closeRoot (id : PathId) (lastBound : Option Reference)
  | close (id : PathId) (reference : Reference) (lastBound : Option Reference) (bound : Bound)
      (parentLastBound : Option Reference)
  | literal
  | reference
  | bind (id : PathId) (reference : Reference) (bound : Bound)
      (parentLastBound : Option Reference) (tookHeld : Bool)
  | shift (reference : Reference) (unbound : Unbound)
  /-- The text written before had this many characters. -/
  | write (length : Nat)
  | attribute (key : String) (previous : Option Value)
  deriving Repr

namespace BuildState

/-! ## The innermost segment -/

/-- The innermost segment, if it is an open node, with that node and the segments
around it. -/
def openTop? (s : BuildState) : Option (Segment × Node × List Segment) :=
  match s.segments with
  | [] => none
  | segment :: rest => segment.node.map (segment, ·, rest)

/-- The innermost segment, if it waits for a value, with the segments around
it. -/
def pendingTop? (s : BuildState) : Option (Segment × List Segment) :=
  match s.segments with
  | [] => none
  | segment :: rest => if segment.node.isNone then some (segment, rest) else none

def requireOpen (s : BuildState) (action : String) :
    Except BuildError (Segment × Node × List Segment) :=
  match s.openTop? with
  | some top => .ok top
  | none => .error (.noOpenNode action)

def modifyNode (s : BuildState) (action : String) (f : Node → Node) :
    Except BuildError BuildState := do
  let (segment, node, rest) ← s.requireOpen action
  return { s with segments := { segment with node := some (f node) } :: rest }

/-- Bind a value in the open node.  Returns how, and the slot bound before. -/
def bindOpen (s : BuildState) (r : Reference) (value : Property) (action : String) :
    Except BuildError (BuildState × Bound × Option Reference) := do
  let (segment, node, rest) ← s.requireOpen action
  let (node, bound) ← node.bind r value
  let segment' := { segment with node := some node, lastBound := some r }
  return ({ s with segments := segment' :: rest }, bound, segment.lastBound)

def unbindOpen (s : BuildState) (r : Reference) (bound : Bound)
    (previous : Option Reference) : Except BuildError (BuildState × Property) := do
  let (segment, node, rest) ← s.requireOpen "reject"
  match node.revertBind r bound with
  | none => throw (.noPendingReference "reject")
  | some (value, node) =>
    let segment := { segment with node := some node, lastBound := previous }
    return ({ s with segments := segment :: rest }, value)

/-! ## Terminals

A terminal that fails may fail half way.  The state is therefore returned beside
the failure. -/

/-- What comes of a change that is made as a whole or not at all. -/
def attempt (s : BuildState) :
    Except BuildError (BuildState × Undo) → BuildState × Except BuildError Undo
  | .ok (s, undo) => (s, .ok undo)
  | .error e => (s, .error e)

def applyDoctype (s : BuildState) (attributes : Attributes) :
    Except BuildError (BuildState × Undo) :=
  if s.root.isSome || !s.segments.isEmpty then .error .doctypeAfterRoot
  else .ok ({ s with doctype := some attributes }, .doctype s.doctype)

def applyOpen (s : BuildState) (id : PathId) (tag : OpenTag) :
    Except BuildError (BuildState × Undo) :=
  match s.segments with
  | [] =>
    if s.root.isSome then .error .rootClosed
    else .ok ({ s with segments := [{ id, node := some { tag } }] }, .openRoot)
  | segment :: rest =>
    if segment.node.isSome then .error (.missingReference tag.typeName)
    else
      .ok ({ s with segments := { segment with node := some { tag } } :: rest }, .openPending)

/-- The node is off the path before it is bound, and stays off if it cannot be. -/
def applyClose (s : BuildState) : BuildState × Except BuildError Undo :=
  match s.openTop? with
  | none => (s, .error (.noOpenNode "close"))
  | some (segment, node, []) =>
    ({ s with segments := [], root := some node }, .ok (.closeRoot segment.id segment.lastBound))
  | some (segment, node, rest) =>
    attempt { s with segments := rest } do
      match segment.reference with
      | none => throw (.noPendingReference "close")
      | some r =>
        let (s, bound, previous) ←
          bindOpen { s with segments := rest } r (.ofNode node) "close"
        return (s, .close segment.id r segment.lastBound bound previous)

def applyLiteral (s : BuildState) (text : String) : Except BuildError (BuildState × Undo) := do
  let s ← s.modifyNode "literal" (·.addChild (.literal text))
  return (s, .literal)

def applyReference (s : BuildState) (id : PathId) (r : Reference) :
    Except BuildError (BuildState × Undo) := do
  let (_, node, _) ← s.requireOpen "reference"
  node.checkBindable r
  let s ← s.modifyNode "reference" (·.addChild (.reference r))
  return ({ s with segments := { id, reference := some r } :: s.segments }, .reference)

/-- Bind `value` to the reference that waits for one.  The reference is off the
path before that, and the held value is used up if `tookHeld` says so. -/
def bindPending (s : BuildState) (value : Property) (tookHeld : Bool) (action : String) :
    BuildState × Except BuildError Undo :=
  match s.pendingTop? with
  | none => (s, .error (.noPendingReference action))
  | some (segment, rest) =>
    let s := { s with held := if tookHeld then none else s.held, segments := rest }
    s.attempt do
      match segment.reference with
      | none => throw (.noPendingReference action)
      | some r =>
        let (s, bound, previous) ← s.bindOpen r value action
        return (s, .bind segment.id r bound previous tookHeld)

def applyNull (s : BuildState) : BuildState × Except BuildError Undo :=
  s.bindPending .null false "null"

def applyGap (s : BuildState) : BuildState × Except BuildError Undo :=
  s.bindPending (s.held.getD .gap) s.held.isSome "gap"

/-- Take the value bound last out of its slot.  The slot waits for a value
again. -/
def applyShift (s : BuildState) (id : PathId) : BuildState × Except BuildError Undo :=
  if s.held.isSome then (s, .error .alreadyShifted)
  else
    match s.openTop? with
    | none => (s, .error (.noOpenNode "shift"))
    | some (segment, node, rest) =>
      match segment.lastBound with
      | none => (s, .error .nothingToShift)
      | some r =>
        let segment := { segment with lastBound := none }
        match node.unbind r with
        | none => ({ s with segments := segment :: rest }, .error .nothingToShift)
        | some (value, node, unbound) =>
          let pending : Segment := { id, reference := some r }
          let segment := { segment with node := some node }
          ({ s with held := some value, segments := pending :: segment :: rest },
            .ok (.shift r unbound))

/-- Add a terminal to the tree.  `id` names the segment, if it starts one. -/
def apply (s : BuildState) (id : PathId) : Terminal → BuildState × Except BuildError Undo
  | .doctype tag => s.attempt (s.applyDoctype tag.attributes)
  | .openNode tag => s.attempt (s.applyOpen id tag)
  | .close => s.applyClose
  | .literal text => s.attempt (s.applyLiteral text)
  | .gap => s.applyGap
  | .shift => s.applyShift id
  | .reference r => s.attempt (s.applyReference id r)
  | .null => s.applyNull

/-- Whether a terminal uses up a segment name.  References and shifts do even
when they fail; opening does only for the root. -/
def takesId (s : BuildState) : Terminal → Bool
  | .reference _ => true
  | .shift => true
  | .openNode _ => s.segments.isEmpty && s.root.isNone
  | _ => false

/-! ## Other changes -/

def setLast (s : BuildState) (t : Terminal) : BuildState × Undo :=
  ({ s with last := some t }, .last s.last)

def write (s : BuildState) (text : String) : BuildState × Undo :=
  ({ s with written := s.written ++ text }, .write s.written.length)

def bindAttribute (s : BuildState) (key : String) (value : Value) :
    Except BuildError (BuildState × Undo) := do
  let (_, node, _) ← s.requireOpen "bindAttribute"
  let s ← s.modifyNode "bindAttribute" fun node =>
    { node with tag := { node.tag with attributes := node.tag.attributes.insert key value } }
  return (s, .attribute key (node.tag.attributes.get? key))

/-! ## Taking back -/

/-- Take back one change.  The state is the one that the change led to, so the
failures never happen when changes are taken back in reverse order. -/
def revert (s : BuildState) : Undo → Except BuildError BuildState
  | .last previous => .ok { s with last := previous }
  | .doctype previous => .ok { s with doctype := previous }
  | .openRoot => .ok { s with segments := s.segments.tail }
  | .openPending => do
    let (segment, _, rest) ← s.requireOpen "reject"
    return { s with segments := { segment with node := none } :: rest }
  | .closeRoot id lastBound =>
    match s.root with
    | none => .error (.noOpenNode "reject")
    | some node =>
      let segment : Segment := { id, node := some node, lastBound }
      .ok { s with root := none, segments := segment :: s.segments }
  | .close id r lastBound bound previous => do
    let (s, value) ← s.unbindOpen r bound previous
    match value.node? with
    | none => throw (.noOpenNode "reject")
    | some node =>
      let segment : Segment := { id, reference := some r, node := some node, lastBound }
      return { s with segments := segment :: s.segments }
  | .literal => s.modifyNode "reject" Node.dropChild
  | .reference => modifyNode { s with segments := s.segments.tail } "reject" Node.dropChild
  | .bind id r bound previous tookHeld => do
    let (s, value) ← s.unbindOpen r bound previous
    let segment : Segment := { id, reference := some r }
    return { s with
      held := if tookHeld then some value else s.held,
      segments := segment :: s.segments }
  | .shift r unbound =>
    match s.held with
    | none => .error .nothingToShift
    | some value => do
      let s := { s with held := none, segments := s.segments.tail }
      let (segment, node, rest) ← s.requireOpen "reject"
      let node := node.revertUnbind r value unbound
      return { s with segments := { segment with node := some node, lastBound := some r } :: rest }
  | .write length => .ok { s with written := String.ofList (s.written.toList.take length) }
  | .attribute key previous =>
    s.modifyNode "reject" fun node =>
      { node with tag :=
          { node.tag with attributes := node.tag.attributes.restore key previous } }

def revertAll (s : BuildState) (undos : List Undo) : Except BuildError BuildState :=
  undos.foldlM revert s

end BuildState

end Backtrack
