import Backtrack.FrameStack

/-!
The stack of attempts as it is stored: what the frames carry in one array, what is
known of them in another.  The second has an entry for the root, the first has
none, so frame `i` of the one is frame `i + 1` of the other.  A frame is looked up
by its name, which is why the names have to be in order.
-/

namespace Backtrack

structure IndexedStack (α : Type) where
  root : α
  /-- What the frames above the root carry, innermost last. -/
  chain : Array α := #[]
  /-- What is known of the root and of the frames of `chain`. -/
  live : Array FrameInfo := #[.root]
  retired : Option FrameInfo := none
  next : Nat := 1
  deriving Repr

namespace IndexedStack

variable {α : Type}

def ofRoot (payload : α) : IndexedStack α := { root := payload }

def top (s : IndexedStack α) : FrameId := (s.live.back?.map (·.id)).getD .root

def depth (s : IndexedStack α) : Nat := s.chain.size

def current (s : IndexedStack α) : α := s.chain.back?.getD s.root

def modify (s : IndexedStack α) (f : α → α) : IndexedStack α :=
  if s.chain.isEmpty then { s with root := f s.root }
  else { s with chain := s.chain.modify (s.chain.size - 1) f }

/-! ## Questions about frames -/

/-- Where the entry named `id` stands if it is one of the `size` entries from `base`
on.  The range is halved until one entry is left. -/
def narrow (live : Array FrameInfo) (id : FrameId) (base size : Nat) : Nat :=
  if size ≤ 1 then base
  else
    let half := size / 2
    let middle := base + half
    let later := live[middle]?.any fun info => id.index < info.id.index
    narrow live id (if later then base else middle) (size - half)
termination_by size

def search? (live : Array FrameInfo) (id : FrameId) : Option Nat :=
  let place := narrow live id 0 live.size
  if live[place]?.any fun info => info.id = id then some place else none

def info? (s : IndexedStack α) (id : FrameId) : Option FrameInfo :=
  match search? s.live id with
  | some place => s.live[place]?
  | none => s.retired.filter fun info => info.id = id

def status? (s : IndexedStack α) (id : FrameId) : Option Status := (s.info? id).map (·.status)

def parent? (s : IndexedStack α) (id : FrameId) : Option FrameId :=
  (s.info? id).bind (·.parent)

def depth? (s : IndexedStack α) (id : FrameId) : Option Nat := (s.info? id).map (·.depth)

/-! ## Moves

A move returns the stack even if it fails. -/

def setStatus (s : IndexedStack α) (status : Status) : IndexedStack α :=
  { s with live := s.live.modify (s.live.size - 1) fun info => { info with status } }

def checkTop (s : IndexedStack α) (id : FrameId) (action : FrameAction) : Except Error Unit :=
  let open? :=
    match s.status? id with
    | some .active | some .suspended => true
    | _ => false
  if id = s.top && open? then .ok () else .error (.notOnTop action)

def branch [Payload α] (s : IndexedStack α) (id : FrameId) :
    IndexedStack α × Except Error FrameId :=
  match s.checkTop id .branch with
  | .error e => (s, .error e)
  | .ok () =>
    let child := Payload.fork s.current
    let name : FrameId := ⟨s.next⟩
    let s := { s with next := s.next + 1 }
    let s := s.setStatus .suspended
    let info : FrameInfo :=
      { id := name, status := .active, parent := some id, depth := s.chain.size + 1 }
    ({ s with live := s.live.push info, chain := s.chain.push child }, .ok name)

/-- Take the last entry off both arrays.  If one of them has none, what was taken off
the other is gone. -/
def retire (s : IndexedStack α) (id : FrameId) (action : FrameAction) (status : Status) :
    IndexedStack α × Except Error (α × FrameId) :=
  match s.checkTop id action with
  | .error e => (s, .error e)
  | .ok () =>
    let popped := { s with chain := s.chain.pop, live := s.live.pop }
    match s.chain.back?, s.live.back? with
    | some child, some info =>
      let s := { popped with retired := some { info with status } }
      let parent := info.parent.getD .root
      (if parent = .root then s else s.setStatus .active, .ok (child, parent))
    | _, _ => (popped, .error (.notOnTop action))

def accept [Payload α] (s : IndexedStack α) (id : FrameId) :
    IndexedStack α × Except Error FrameId :=
  if id = .root then (s, .error .acceptedRoot)
  else
    match s.retire id .accept .accepted with
    | (s, .ok (child, parent)) => (s.modify (Payload.merge · child), .ok parent)
    | (s, .error e) => (s, .error e)

/-- Besides the frame below, the answer has the payload that was dropped. -/
def reject (s : IndexedStack α) (id : FrameId) :
    IndexedStack α × Except Error (FrameId × α) :=
  if id = .root then (s, .error .rejectedRoot)
  else
    match s.retire id .reject .rejected with
    | (s, .ok (child, parent)) => (s, .ok (parent, child))
    | (s, .error e) => (s, .error e)

end IndexedStack

end Backtrack
