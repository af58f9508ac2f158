import Backtrack.Builder.Basic
import Backtrack.Proofs.Builder.OpenTags
import Backtrack.Proofs.Tree.Bare

/-!
Building without attributes.  No terminal looks at an attribute of the tree, so building and
taking the attributes away can be done in either order.
-/

namespace Backtrack

def Segment.bare (segment : Segment) : Segment :=
  { segment with node := segment.node.map Node.bare }

namespace BuildState

variable {s : BuildState} {id : PathId}

def bare (s : BuildState) : BuildState :=
  { s with
    segments := s.segments.map Segment.bare
    root := s.root.map Node.bare
    held := s.held.map Property.bare }

def bareChange (change : BuildState × Undo) : BuildState × Undo := (change.1.bare, change.2)

theorem openTop?_bare (s : BuildState) :
    s.bare.openTop? = s.openTop?.map fun top => (top.1.bare, top.2.1.bare, top.2.2.map .bare) := by
  unfold openTop? bare
  cases s.segments with
  | nil => rfl
  | cons segment rest =>
      obtain ⟨id, reference, node, lastBound⟩ := segment
      cases node <;> rfl

theorem pendingTop?_bare (s : BuildState) :
    s.bare.pendingTop? = s.pendingTop?.map fun top => (top.1.bare, top.2.map .bare) := by
  unfold pendingTop? bare
  cases s.segments with
  | nil => rfl
  | cons segment rest =>
      obtain ⟨id, reference, node, lastBound⟩ := segment
      cases node <;> rfl

theorem requireOpen_bare (s : BuildState) (action : String) :
    s.bare.requireOpen action =
      (s.requireOpen action).map fun top => (top.1.bare, top.2.1.bare, top.2.2.map .bare) := by
  rw [requireOpen, requireOpen, openTop?_bare]
  cases s.openTop? <;> rfl

theorem modifyNode_bare {f g : Node → Node} (hfg : ∀ n, (f n).bare = g n.bare) (s : BuildState)
    (action : String) : s.bare.modifyNode action g = (s.modifyNode action f).map bare := by
  unfold modifyNode
  rw [requireOpen_bare]
  cases s.requireOpen action with
  | error error => rfl
  | ok top =>
      obtain ⟨segment, n, rest⟩ := top
      show Except.ok _ = Except.ok _
      simp [bare, Segment.bare, hfg]

theorem bindOpen_bare (s : BuildState) (r : Reference) (value : Property) (action : String) :
    s.bare.bindOpen r value.bare action =
      (s.bindOpen r value action).map fun bound => (bound.1.bare, bound.2) := by
  unfold bindOpen
  rw [requireOpen_bare]
  cases s.requireOpen action with
  | error error => rfl
  | ok top =>
      obtain ⟨segment, n, rest⟩ := top
      show (n.bare.bind r value.bare >>= _) = Except.map _ (n.bind r value >>= _)
      rw [Node.bind_bare]
      cases n.bind r value with
      | error error => rfl
      | ok bound => rfl

theorem attempt_bare (s : BuildState) (x : Except BuildError (BuildState × Undo)) :
    s.bare.attempt (x.map bareChange) = ((s.attempt x).1.bare, (s.attempt x).2) :=
  attempt_map bare s x

theorem applyOpen_bare (s : BuildState) (id : PathId) (tag : OpenTag) :
    s.bare.applyOpen id tag.bare = (s.applyOpen id tag).map bareChange := by
  obtain ⟨doctype, segments, root, held, last, written⟩ := s
  cases segments with
  | nil => cases root <;> rfl
  | cons segment rest =>
      obtain ⟨id', reference, node, lastBound⟩ := segment
      cases node <;> rfl

theorem applyClose_bare (s : BuildState) :
    s.bare.applyClose = (s.applyClose.1.bare, s.applyClose.2) := by
  unfold applyClose
  rw [openTop?_bare]
  rcases s.openTop? with _ | ⟨⟨id, reference, node, lastBound⟩, n, _ | ⟨parent, rest⟩⟩
  · rfl
  · rfl
  · have hbind := bindSlot_map
      (fun r => bindOpen_bare { s with segments := parent :: rest } r (.ofNode n) "close")
      reference fun r => .close id r lastBound
    rw [Node.bare_ofNode] at hbind
    exact (congrArg _ hbind).trans (attempt_bare { s with segments := parent :: rest } _)

theorem bindPending_bare (s : BuildState) (value : Property) (tookHeld : Bool) (action : String) :
    s.bare.bindPending value.bare tookHeld action =
      ((s.bindPending value tookHeld action).1.bare, (s.bindPending value tookHeld action).2) := by
  unfold bindPending
  rw [pendingTop?_bare]
  rcases s.pendingTop? with _ | ⟨⟨id, reference, node, lastBound⟩, rest⟩
  · rfl
  · have hheld : (if tookHeld then none else s.bare.held) =
        (if tookHeld then none else s.held).map Property.bare := by
      cases tookHeld <;> rfl
    have hbind := bindSlot_map (fun r => bindOpen_bare
      { s with held := if tookHeld then none else s.held, segments := rest } r value action)
      reference fun r bound previous => .bind id r bound previous tookHeld
    simp only [Option.map_some, hheld]
    exact (congrArg _ hbind).trans (attempt_bare
      { s with held := if tookHeld then none else s.held, segments := rest } _)

theorem applyShift_bare (s : BuildState) (id : PathId) :
    s.bare.applyShift id = ((s.applyShift id).1.bare, (s.applyShift id).2) := by
  obtain ⟨doctype, segments, root, held, last, written⟩ := s
  unfold applyShift
  rw [openTop?_bare]
  cases held with
  | some value => rfl
  | none =>
      rcases BuildState.openTop? _ with _ | ⟨segment, n, rest⟩
      · rfl
      · cases hlast : segment.lastBound with
        | none => simp [bare, hlast, Segment.bare]
        | some r =>
            simp only [bare, hlast, Segment.bare, Option.map_some, Option.isSome_none,
              Option.map_none, Bool.false_eq_true, if_false, Node.unbind_bare]
            rcases n.unbind r with _ | ⟨value, n', how⟩ <;> rfl

theorem applyDoctype_bare (s : BuildState) (attributes : Attributes) :
    s.bare.applyDoctype attributes = (s.applyDoctype attributes).map bareChange := by
  have hbusy : (s.bare.root.isSome || !s.bare.segments.isEmpty) =
      (s.root.isSome || !s.segments.isEmpty) := by
    simp [bare]
  unfold applyDoctype
  rw [hbusy]
  split <;> rfl

theorem applyLiteral_bare (s : BuildState) (text : String) :
    s.bare.applyLiteral text = (s.applyLiteral text).map bareChange := by
  unfold applyLiteral
  rw [modifyNode_bare (f := (·.addChild (.literal text))) (g := (·.addChild (.literal text)))
    (fun _ => rfl)]
  cases s.modifyNode "literal" (·.addChild (.literal text)) <;> rfl

theorem applyReference_bare (s : BuildState) (id : PathId) (r : Reference) :
    s.bare.applyReference id r = (s.applyReference id r).map bareChange := by
  unfold applyReference
  rw [requireOpen_bare]
  cases s.requireOpen "reference" with
  | error error => rfl
  | ok top =>
      obtain ⟨segment, n, rest⟩ := top
      rw [modifyNode_bare (f := (·.addChild (.reference r))) (g := (·.addChild (.reference r)))
        (fun _ => rfl)]
      show (n.bare.checkBindable r >>= _) = Except.map _ (n.checkBindable r >>= _)
      rw [Node.checkBindable_bare]
      cases n.checkBindable r with
      | error error => rfl
      | ok _ => cases s.modifyNode "reference" (·.addChild (.reference r)) <;> rfl

theorem applyGap_bare (s : BuildState) :
    s.bare.applyGap = (s.applyGap.1.bare, s.applyGap.2) := by
  have hvalue : s.bare.held.getD .gap = (s.held.getD .gap).bare := by
    cases hheld : s.held <;> simp [bare, hheld, Property.bare]
  have htook : s.bare.held.isSome = s.held.isSome := by simp [bare]
  rw [applyGap, hvalue, htook]
  exact s.bindPending_bare _ _ "gap"

/-- No terminal looks at the attributes. -/
theorem apply_bare (s : BuildState) (id : PathId) (t : Terminal) :
    s.bare.apply id t.bare = ((s.apply id t).1.bare, (s.apply id t).2) := by
  cases t with
  | doctype tag =>
      show s.bare.apply id (.doctype tag) = _
      rw [apply, apply, applyDoctype_bare, attempt_bare]
  | openNode tag =>
      rw [apply, Terminal.bare, apply, applyOpen_bare, attempt_bare]
  | close => exact s.applyClose_bare
  | literal text =>
      show s.bare.apply id (.literal text) = _
      rw [apply, apply, applyLiteral_bare, attempt_bare]
  | gap => exact s.applyGap_bare
  | shift => exact s.applyShift_bare id
  | reference r =>
      show s.bare.apply id (.reference r) = _
      rw [apply, apply, applyReference_bare, attempt_bare]
  | null => exact s.bindPending_bare .null false "null"

theorem takesId_bare (s : BuildState) (t : Terminal) : s.bare.takesId t = s.takesId t := by
  cases t <;> simp [takesId, bare]

theorem bare_of_bindAttribute {s s' : BuildState} {key : String} {value : Value} {undo : Undo}
    (h : s.bindAttribute key value = .ok (s', undo)) : s'.bare = s.bare := by
  obtain ⟨segment, n, rest, hsegments, hnode, rfl, _⟩ := bindAttribute_eq_ok h
  simp [bare, hsegments, Segment.bare, hnode, Node.bare, OpenTag.bare]

end BuildState

namespace Builder

def bare (b : Builder) : Builder := { b with state := b.state.bare }

theorem path_bare (b : Builder) : b.bare.path = b.path := by
  simp [path, bare, BuildState.bare, Segment.bare, ← List.map_reverse]

theorem node?_bare (b : Builder) : b.bare.node? = b.node?.map Node.bare := by
  unfold node? bare BuildState.bare
  cases b.state.segments <;> rfl

theorem parentNode?_bare (b : Builder) : b.bare.parentNode? = b.parentNode?.map Node.bare := by
  unfold parentNode? bare BuildState.bare
  rcases b.state.segments with _ | ⟨segment, _ | ⟨parent, rest⟩⟩ <;> rfl

theorem finish_bare (b : Builder) : b.bare.finish = b.finish.map Document.bare := by
  unfold finish bare BuildState.bare
  cases b.state.segments with
  | nil => cases b.state.root <;> rfl
  | cons segment rest => simp [Except.map]

end Builder

end Backtrack
