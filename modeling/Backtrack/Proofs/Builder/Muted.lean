import Backtrack.Proofs.Builder.Paired

/-!
Trees beside which something else was written.  What is written stands beside the tree: no
terminal and no attribute looks at it or changes it, so building and forgetting it can be
done in either order.
-/

namespace Backtrack

def Document.muted (d : Document) : Document := { d with written := "" }

namespace BuildState

variable {s t : BuildState}

def muted (s : BuildState) : BuildState := { s with written := "" }

def mutedChange (change : BuildState × Undo) : BuildState × Undo := (change.1.muted, change.2)

theorem modifyNode_muted (s : BuildState) (action : String) (f : Node → Node) :
    s.muted.modifyNode action f = (s.modifyNode action f).map muted := by
  show (s.requireOpen action >>= _) = Except.map _ (s.requireOpen action >>= _)
  cases s.requireOpen action <;> rfl

theorem bindOpen_muted (s : BuildState) (r : Reference) (value : Property) (action : String) :
    s.muted.bindOpen r value action =
      (s.bindOpen r value action).map fun bound => (bound.1.muted, bound.2) := by
  show (s.requireOpen action >>= _) = Except.map _ (s.requireOpen action >>= _)
  cases s.requireOpen action with
  | error error => rfl
  | ok top =>
      obtain ⟨segment, n, rest⟩ := top
      show (n.bind r value >>= _) = Except.map _ (n.bind r value >>= _)
      cases n.bind r value <;> rfl

theorem applyClose_muted (s : BuildState) :
    s.muted.applyClose = (s.applyClose.1.muted, s.applyClose.2) := by
  have hopen : s.muted.openTop? = s.openTop? := rfl
  unfold applyClose
  rw [hopen]
  rcases s.openTop? with _ | ⟨⟨id, reference, node, lastBound⟩, n, _ | ⟨parent, rest⟩⟩
  · rfl
  · rfl
  · have hbind := bindSlot_map
      (fun r => bindOpen_muted { s with segments := parent :: rest } r (.ofNode n) "close")
      reference fun r => .close id r lastBound
    exact (congrArg _ hbind).trans (attempt_map muted { s with segments := parent :: rest } _)

theorem bindPending_muted (s : BuildState) (value : Property) (tookHeld : Bool)
    (action : String) :
    s.muted.bindPending value tookHeld action =
      ((s.bindPending value tookHeld action).1.muted, (s.bindPending value tookHeld action).2) := by
  have hpending : s.muted.pendingTop? = s.pendingTop? := rfl
  unfold bindPending
  rw [hpending]
  rcases s.pendingTop? with _ | ⟨⟨id, reference, node, lastBound⟩, rest⟩
  · rfl
  · have hbind := bindSlot_map (fun r => bindOpen_muted
      { s with held := if tookHeld then none else s.held, segments := rest } r value action)
      reference fun r bound previous => .bind id r bound previous tookHeld
    exact (congrArg _ hbind).trans (attempt_map muted
      { s with held := if tookHeld then none else s.held, segments := rest } _)

theorem applyShift_muted (s : BuildState) (id : PathId) :
    s.muted.applyShift id = ((s.applyShift id).1.muted, (s.applyShift id).2) := by
  have hopen : s.muted.openTop? = s.openTop? := rfl
  have hheld : s.muted.held = s.held := rfl
  unfold applyShift
  rw [hopen, hheld]
  cases s.held.isSome with
  | true => rfl
  | false =>
      rcases s.openTop? with _ | ⟨segment, n, rest⟩
      · rfl
      · dsimp only
        cases segment.lastBound with
        | none => rfl
        | some r => cases hunbind : n.unbind r <;> simp [hunbind, muted]

theorem applyReference_muted (s : BuildState) (id : PathId) (r : Reference) :
    s.muted.applyReference id r = (s.applyReference id r).map mutedChange := by
  show (s.requireOpen "reference" >>= _) = Except.map _ (s.requireOpen "reference" >>= _)
  cases s.requireOpen "reference" with
  | error error => rfl
  | ok top =>
      obtain ⟨segment, n, rest⟩ := top
      show (n.checkBindable r >>= _) = Except.map _ (n.checkBindable r >>= _)
      cases n.checkBindable r with
      | error error => rfl
      | ok _ =>
          show (s.muted.modifyNode _ _ >>= _) = Except.map _ (s.modifyNode _ _ >>= _)
          rw [modifyNode_muted]
          cases s.modifyNode "reference" (·.addChild (.reference r)) <;> rfl

theorem apply_muted (s : BuildState) (id : PathId) (x : Terminal) :
    s.muted.apply id x = ((s.apply id x).1.muted, (s.apply id x).2) := by
  cases x with
  | doctype tag =>
      have hchange : s.muted.applyDoctype tag.attributes =
          (s.applyDoctype tag.attributes).map mutedChange := by
        show (if (s.root.isSome || !s.segments.isEmpty) = true then _ else _) =
          Except.map _ (if (s.root.isSome || !s.segments.isEmpty) = true then _ else _)
        split <;> rfl
      exact (congrArg _ hchange).trans (attempt_map muted s _)
  | openNode tag =>
      have hchange : s.muted.applyOpen id tag = (s.applyOpen id tag).map mutedChange := by
        obtain ⟨doctype, segments, root, held, last, written⟩ := s
        cases segments with
        | nil => cases root <;> rfl
        | cons segment rest =>
            obtain ⟨id', reference, node, lastBound⟩ := segment
            cases node <;> rfl
      exact (congrArg _ hchange).trans (attempt_map muted s _)
  | close => exact s.applyClose_muted
  | literal text =>
      have hchange : s.muted.applyLiteral text = (s.applyLiteral text).map mutedChange := by
        unfold applyLiteral
        rw [modifyNode_muted]
        cases s.modifyNode "literal" (·.addChild (.literal text)) <;> rfl
      exact (congrArg _ hchange).trans (attempt_map muted s _)
  | gap => exact s.bindPending_muted _ _ _
  | shift => exact s.applyShift_muted id
  | reference r => exact (congrArg _ (s.applyReference_muted id r)).trans (attempt_map muted s _)
  | null => exact s.bindPending_muted _ _ _

theorem bindAttribute_muted (s : BuildState) (key : String) (value : Value) :
    s.muted.bindAttribute key value = (s.bindAttribute key value).map mutedChange := by
  show (s.requireOpen "bindAttribute" >>= _) = Except.map _ (s.requireOpen "bindAttribute" >>= _)
  cases s.requireOpen "bindAttribute" with
  | error error => rfl
  | ok top =>
      show (s.muted.modifyNode _ _ >>= _) = Except.map _ (s.modifyNode _ _ >>= _)
      rw [modifyNode_muted]
      cases s.modifyNode "bindAttribute" _ <;> rfl

/-! ## The same tree -/

/-- The same but for what was written. -/
def SameTree (s t : BuildState) : Prop := s.muted = t.muted

theorem SameTree.apply (h : s.SameTree t) (id : PathId) (x : Terminal) :
    (s.apply id x).2 = (t.apply id x).2 ∧ (s.apply id x).1.SameTree (t.apply id x).1 := by
  have happly := congrArg (·.apply id x) h
  simp only [apply_muted, Prod.mk.injEq] at happly
  exact happly.symm

theorem SameTree.setLast (h : s.SameTree t) (x : Terminal) :
    (s.setLast x).1.SameTree (t.setLast x).1 := by
  show { s.muted with last := some x } = { t.muted with last := some x }
  rw [h]

theorem SameTree.bindAttribute (h : s.SameTree t) (key : String) (value : Value) :
    (∃ change change', s.bindAttribute key value = .ok change ∧
        t.bindAttribute key value = .ok change' ∧ change.1.SameTree change'.1) ∨
      ∃ error, s.bindAttribute key value = .error error ∧
        t.bindAttribute key value = .error error := by
  have hsame := congrArg (·.bindAttribute key value) h
  simp only [bindAttribute_muted] at hsame
  rcases hbind : s.bindAttribute key value with error | change <;>
    rcases hbind' : t.bindAttribute key value with error' | change' <;>
    rw [hbind, hbind'] at hsame
  · cases hsame
    exact Or.inr ⟨error, rfl, rfl⟩
  · cases hsame
  · cases hsame
  · have hchange : mutedChange change = mutedChange change' := Except.ok.inj hsame
    exact Or.inl ⟨change, change', rfl, rfl, congrArg Prod.fst hchange⟩

end BuildState

namespace Builder

variable {b c : Builder}

/-! ## What is seen of a tree -/

theorem Paired.written (h : b.Paired BuildState.SameTree c) (text : String) :
    b.Paired BuildState.SameTree (c.write text).1 := by
  refine h.changed (by simp [Builder.write, h.nextId]) ?_ (fun _ hmirrors => hmirrors)
    fun _ hmirrors => hmirrors.write text
  rw [Builder.write, state_commit]
  exact h.state

end Builder

end Backtrack
