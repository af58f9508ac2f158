import Backtrack.Proofs.Builder.Change
import Backtrack.Proofs.Tree.Slots

/-!
The shape of a tree under construction.  Only the innermost segment of the path
can be without a node.  Every node further out awaits the value of the reference
that leads on from it, the innermost node is filled, and the reference bound last
is the one a shift takes from.  Every change keeps the shape, its undo takes it
back exactly, and a change that fails changes nothing.
-/

namespace Backtrack

/-- The innermost segment: a filled node, or a reference without a value. -/
def Segment.Settled (segment : Segment) : Prop :=
  match segment.node with
  | some n => ∃ bound, n.Filled bound ∧ segment.lastBound = bound.head?.map (·.1)
  | none => segment.lastBound = none ∧ segment.reference.isSome

namespace BuildState

/-- The segments around one that is reached through a reference: each has a node
that awaits the value of the reference that leads on.  The root is reached
through none. -/
def Around : Option Reference → List Segment → Prop
  | none, [] => True
  | some r, segment :: rest =>
      (∃ n bound, segment.node = some n ∧ n.Awaiting r bound) ∧ Around segment.reference rest
  | _, _ => False

structure Shaped (s : BuildState) : Prop where
  innermost : ∀ segment rest, s.segments = segment :: rest → segment.Settled
  around : ∀ segment rest, s.segments = segment :: rest → Around segment.reference rest
  root_path : ∀ n, s.root = some n → s.segments = []
  root_filled : ∀ n, s.root = some n → ∃ bound, n.Filled bound
  held : ∀ value, s.held = some value → value.Proper
  /-- A reference waits only right after it, or after the shift that freed it. -/
  pending_last : ∀ segment rest, s.segments = segment :: rest → segment.node = none →
    s.last = segment.reference.map .reference ∨ s.last = some .shift
  last_pending : ∀ r, s.last = some (.reference r) →
    ∃ segment rest, s.segments = segment :: rest ∧ segment.node = none

theorem shaped_empty : Shaped {} where
  innermost := by simp
  around := by simp
  root_path := by simp
  root_filled := by simp
  held := by simp
  pending_last := by simp
  last_pending := by simp

/-! ## Reading the shape -/

theorem Shaped.filled {s : BuildState} {segment : Segment} {rest : List Segment} {n : Node}
    (h : s.Shaped) (hsegments : s.segments = segment :: rest) (hnode : segment.node = some n) :
    ∃ bound, n.Filled bound ∧ segment.lastBound = bound.head?.map (·.1) := by
  have hsettled := h.innermost segment rest hsegments
  rw [Segment.Settled, hnode] at hsettled
  exact hsettled

theorem Shaped.pending {s : BuildState} {segment : Segment} {rest : List Segment}
    (h : s.Shaped) (hsegments : s.segments = segment :: rest) (hnode : segment.node = none) :
    segment.lastBound = none ∧ ∃ r, segment.reference = some r := by
  have hsettled := h.innermost segment rest hsegments
  rw [Segment.Settled, hnode] at hsettled
  exact ⟨hsettled.1, Option.isSome_iff_exists.mp hsettled.2⟩

theorem Around.exists_parent {r : Reference} {below : List Segment} (h : Around (some r) below) :
    ∃ parent rest n bound, below = parent :: rest ∧ parent.node = some n ∧ n.Awaiting r bound ∧
      Around parent.reference rest := by
  cases below with
  | nil => exact absurd h (by simp [Around])
  | cons parent rest =>
      obtain ⟨⟨n, bound, hnode, hawaiting⟩, haround⟩ := h
      exact ⟨parent, rest, n, bound, rfl, hnode, hawaiting, haround⟩

theorem Shaped.parent {s : BuildState} {segment : Segment} {below : List Segment} {r : Reference}
    (h : s.Shaped) (hsegments : s.segments = segment :: below)
    (hreference : segment.reference = some r) :
    ∃ parent rest n bound, below = parent :: rest ∧ parent.node = some n ∧ n.Awaiting r bound ∧
      Around parent.reference rest := by
  have haround := h.around segment below hsegments
  rw [hreference] at haround
  exact haround.exists_parent

/-! ## Failures -/

theorem Shaped.exists_bindOpen {s : BuildState} {segment : Segment} {below : List Segment}
    {r : Reference} {value : Property} (h : s.Shaped) (hsegments : s.segments = segment :: below)
    (hreference : segment.reference = some r) (hvalue : value.Proper) (held : Option Property)
    (action : String) :
    ∃ result, bindOpen { s with held, segments := below } r value action = .ok result := by
  obtain ⟨parent, rest, n, bound, rfl, hnode, hawaiting, _⟩ := h.parent hsegments hreference
  obtain ⟨properties, how, hbind, _⟩ := hawaiting.bind hvalue
  exact ⟨_, bindOpen_eq_ok_iff.mpr ⟨parent, n, _, rest, rfl, hnode, hbind, rfl, rfl⟩⟩

/-- Nothing but the lack of a reference that waits keeps a value from being bound. -/
theorem Shaped.bindPending_error_iff {s s' : BuildState} {value : Property} {tookHeld : Bool}
    {action : String} {e : BuildError} (h : s.Shaped) (hvalue : value.Proper) :
    s.bindPending value tookHeld action = (s', .error e) ↔
      s' = s ∧ s.pendingTop? = none ∧ e = .noPendingReference action := by
  unfold bindPending
  split
  · next hnone =>
      simp only [Prod.mk.injEq, Except.error.injEq, hnone, true_and]
      exact and_congr eq_comm eq_comm
  · next segment below htop =>
      obtain ⟨hsegments, hnode⟩ := pendingTop?_eq_some_iff.mp htop
      obtain ⟨_, r, hreference⟩ := h.pending hsegments hnode
      obtain ⟨result, hbind⟩ := h.exists_bindOpen hsegments hreference hvalue
        (if tookHeld then none else s.held) action
      simp [htop, hreference, hbind, attempt, Bind.bind, Except.bind, pure, Except.pure]

/-- Nothing but the lack of an open node keeps one from being closed. -/
theorem Shaped.applyClose_error_iff {s s' : BuildState} {e : BuildError} (h : s.Shaped) :
    s.applyClose = (s', .error e) ↔
      s' = s ∧ s.openTop? = none ∧ e = .noOpenNode "close" := by
  unfold applyClose
  split
  · next hnone =>
      simp only [Prod.mk.injEq, Except.error.injEq, hnone, true_and]
      exact and_congr eq_comm eq_comm
  · next htop => simp [htop]
  · next segment n below hbelow htop =>
      obtain ⟨hsegments, hnode⟩ := openTop?_eq_some_iff.mp htop
      obtain ⟨bound, hfilled, _⟩ := h.filled hsegments hnode
      cases hreference : segment.reference with
      | none =>
          have haround := h.around segment below hsegments
          rw [hreference] at haround
          cases below with
          | nil => exact absurd rfl hbelow
          | cons parent rest => exact absurd haround (by simp [Around])
      | some r =>
          obtain ⟨result, hbind⟩ :=
            h.exists_bindOpen hsegments hreference hfilled.proper_ofNode s.held "close"
          simp [htop, hbind, attempt, Bind.bind, Except.bind, pure, Except.pure]

/-- The reference bound last has a value that can be taken out. -/
theorem Shaped.unbind_lastBound {s : BuildState} {segment : Segment} {rest : List Segment}
    {n : Node} {r : Reference} (h : s.Shaped) (hsegments : s.segments = segment :: rest)
    (hnode : segment.node = some n) (hlast : segment.lastBound = some r) :
    ∃ value properties how bound, n.unbind r = some (value, { n with properties }, how) ∧
      value.Proper ∧ n.Filled ((r, value) :: bound) ∧
      Node.Awaiting { n with properties } r bound := by
  obtain ⟨bound, hfilled, hbound⟩ := h.filled hsegments hnode
  rw [hlast] at hbound
  cases bound with
  | nil => cases hbound
  | cons binding bound =>
      obtain ⟨r', value⟩ := binding
      have hr : r = r' := by simpa using hbound
      subst hr
      obtain ⟨properties, how, hunbind, hawaiting⟩ := hfilled.unbind
      exact ⟨value, properties, how, bound, hunbind,
        hfilled.proper (r, value) List.mem_cons_self, hfilled, hawaiting⟩

/-- What a shift is refused for: a value that is held already, no open node, or no
value bound last. -/
theorem Shaped.applyShift_error_iff {id : PathId} {s s' : BuildState} {e : BuildError}
    (h : s.Shaped) :
    s.applyShift id = (s', .error e) ↔
      s' = s ∧
        (s.held.isSome ∧ e = .alreadyShifted ∨
          s.held = none ∧ s.openTop? = none ∧ e = .noOpenNode "shift" ∨
          s.held = none ∧ (∃ top, s.openTop? = some top ∧ top.1.lastBound = none) ∧
            e = .nothingToShift) := by
  unfold applyShift
  split
  · next hheld =>
      have hne : s.held ≠ none := Option.isSome_iff_ne_none.mp hheld
      simp only [Prod.mk.injEq, Except.error.injEq, hheld, hne, true_and, false_and, or_false]
      exact and_congr eq_comm eq_comm
  · next hheld =>
      have hnone : s.held = none := by simpa using hheld
      split
      · next htop =>
          simp only [Prod.mk.injEq, Except.error.injEq, hnone, htop, true_and]
          simp [eq_comm]
      · next segment n rest htop =>
          obtain ⟨hsegments, hnode⟩ := openTop?_eq_some_iff.mp htop
          split
          · next hlast => simp [hnone, htop, hlast, eq_comm]
          · next r hlast =>
              obtain ⟨value, properties, how, bound, hunbind, _⟩ :=
                h.unbind_lastBound hsegments hnode hlast
              simp [hnone, htop, hlast, hunbind]

theorem Shaped.proper_held {s : BuildState} (h : s.Shaped) : (s.held.getD .gap).Proper := by
  cases hheld : s.held with
  | none => exact .gap
  | some value => exact h.held value hheld

/-- A terminal that fails leaves the state as it was. -/
theorem Shaped.apply_error {id : PathId} {s s' : BuildState} {t : Terminal} {e : BuildError}
    (h : s.Shaped) (herror : s.apply id t = (s', .error e)) : s' = s := by
  cases t with
  | doctype tag => exact attempt_eq_error herror
  | openNode tag => exact attempt_eq_error herror
  | close => exact (h.applyClose_error_iff.mp herror).1
  | literal text => exact attempt_eq_error herror
  | gap => exact ((h.bindPending_error_iff h.proper_held).mp herror).1
  | shift => exact (h.applyShift_error_iff.mp herror).1
  | reference r => exact attempt_eq_error herror
  | null => exact ((h.bindPending_error_iff .null).mp herror).1

/-! ## Changes keep the shape -/

/-- A change that ends with a node on top, and not with a reference. -/
theorem Shaped.of_open {s s' : BuildState} {segment : Segment} {rest : List Segment} {n : Node}
    {bound : List (Reference × Property)} (h : s.Shaped) (hsegments : s'.segments = segment :: rest)
    (hnode : segment.node = some n) (hfilled : n.Filled bound)
    (hbound : segment.lastBound = bound.head?.map (·.1)) (haround : Around segment.reference rest)
    (hroot : s'.root = none) (hheld : s'.held = s.held ∨ s'.held = none)
    (hlast : ∀ r, s'.last ≠ some (.reference r)) : s'.Shaped where
  innermost := by
    intro top below htop
    rw [hsegments] at htop
    cases htop
    rw [Segment.Settled, hnode]
    exact ⟨bound, hfilled, hbound⟩
  around := by
    intro top below htop
    rw [hsegments] at htop
    cases htop
    exact haround
  root_path := by simp [hroot]
  root_filled := by simp [hroot]
  held := by
    intro value hvalue
    rcases hheld with hheld | hheld
    · exact h.held value (hheld ▸ hvalue)
    · rw [hheld] at hvalue
      cases hvalue
  pending_last := by
    intro top below htop hnone
    rw [hsegments] at htop
    cases htop
    rw [hnode] at hnone
    cases hnone
  last_pending := fun r hr => absurd hr (hlast r)

/-- A change that ends with a reference that waits for its value. -/
theorem shaped_of_pending {s : BuildState} {id : PathId} {r : Reference} {rest : List Segment}
    (hsegments : s.segments = { id, reference := some r } :: rest) (haround : Around (some r) rest)
    (hroot : s.root = none) (hheld : ∀ value, s.held = some value → value.Proper)
    (hlast : s.last = some (.reference r) ∨ s.last = some .shift) : s.Shaped where
  innermost := by
    intro top below htop
    rw [hsegments] at htop
    cases htop
    exact ⟨rfl, rfl⟩
  around := by
    intro top below htop
    rw [hsegments] at htop
    cases htop
    exact haround
  root_path := by simp [hroot]
  root_filled := by simp [hroot]
  held := hheld
  pending_last := by
    intro top below htop _
    rw [hsegments] at htop
    cases htop
    exact hlast
  last_pending := fun _ _ => ⟨_, rest, hsegments, rfl⟩

theorem Shaped.root_eq_none {s : BuildState} {segment : Segment} {rest : List Segment}
    (h : s.Shaped) (hsegments : s.segments = segment :: rest) : s.root = none := by
  cases hroot : s.root with
  | none => rfl
  | some n =>
      have hnil := h.root_path n hroot
      rw [hsegments] at hnil
      cases hnil

theorem Shaped.of_bind {s s' : BuildState} {segment parent : Segment} {rest : List Segment}
    {m m' : Node} {r : Reference} {value : Property} {how : Bound} (h : s.Shaped)
    (hsegments : s.segments = segment :: parent :: rest)
    (hreference : segment.reference = some r) (hparent : parent.node = some m)
    (hvalue : value.Proper) (hbind : m.bind r value = .ok (m', how))
    (hsegments' : s'.segments = { parent with node := some m', lastBound := some r } :: rest)
    (hroot : s'.root = s.root) (hheld : s'.held = s.held ∨ s'.held = none)
    (hlast : ∀ r, s'.last ≠ some (.reference r)) : s'.Shaped := by
  obtain ⟨_, _, n, bound, hcons, hnode, hawaiting, haround⟩ := h.parent hsegments hreference
  cases hcons
  rw [hparent, Option.some.injEq] at hnode
  subst hnode
  obtain ⟨properties, how', hbind', hfilled⟩ := hawaiting.bind hvalue
  rw [hbind] at hbind'
  cases hbind'
  exact h.of_open hsegments' rfl hfilled rfl haround (hroot.trans (h.root_eq_none hsegments))
    hheld hlast

theorem Shaped.of_change {id : PathId} {s s' : BuildState} {t : Terminal} {undo : Undo}
    (h : s.Shaped) (hchange : Change id s t s' undo) : Shaped { s' with last := some t } := by
  cases hchange with
  | doctype tag hroot hsegments =>
      exact { innermost := by simp [hsegments], around := by simp [hsegments],
              root_path := by simp [hroot], root_filled := by simp [hroot], held := h.held,
              pending_last := by simp [hsegments], last_pending := by simp }
  | openRoot tag hroot hsegments =>
      exact h.of_open rfl rfl (Node.filled_ofTag tag) rfl trivial hroot (Or.inl rfl) (by simp)
  | openPending tag hsegments hnode =>
      have haround := h.around _ _ hsegments
      exact h.of_open rfl rfl (Node.filled_ofTag tag) (h.pending hsegments hnode).1 haround
        (h.root_eq_none hsegments) (Or.inl rfl) (by simp)
  | closeRoot hsegments hnode =>
      obtain ⟨bound, hfilled, _⟩ := h.filled hsegments hnode
      exact { innermost := by simp, around := by simp, root_path := by simp,
              root_filled := by
                intro n hn
                cases hn
                exact ⟨bound, hfilled⟩
              held := h.held, pending_last := by simp, last_pending := by simp }
  | close hsegments hnode hreference hparent hbind =>
      obtain ⟨bound, hfilled, _⟩ := h.filled hsegments hnode
      exact h.of_bind hsegments hreference hparent hfilled.proper_ofNode hbind rfl rfl
        (Or.inl rfl) (by simp)
  | literal text hsegments hnode =>
      have haround := h.around _ _ hsegments
      obtain ⟨bound, hfilled, hbound⟩ := h.filled hsegments hnode
      exact h.of_open rfl rfl (hfilled.addLiteral text) hbound haround
        (h.root_eq_none hsegments) (Or.inl rfl) (by simp)
  | reference r hsegments hnode hfree =>
      have haround := h.around _ _ hsegments
      obtain ⟨bound, hfilled, _⟩ := h.filled hsegments hnode
      exact shaped_of_pending rfl ⟨⟨_, bound, rfl, hfilled.addReference hfree⟩, haround⟩
        (h.root_eq_none hsegments) h.held (Or.inl rfl)
  | null hsegments hnode hreference hparent hbind =>
      exact h.of_bind hsegments hreference hparent .null hbind rfl rfl (Or.inl rfl) (by simp)
  | gap hsegments hnode hreference hparent hbind =>
      exact h.of_bind hsegments hreference hparent h.proper_held hbind rfl rfl (Or.inr rfl)
        (by simp)
  | shift hheld hsegments hnode hlast hunbind =>
      have haround := h.around _ _ hsegments
      obtain ⟨value, properties, how, bound, hunbind', hproper, _, hawaiting⟩ :=
        h.unbind_lastBound hsegments hnode hlast
      rw [hunbind] at hunbind'
      cases hunbind'
      refine shaped_of_pending rfl ⟨⟨_, bound, rfl, hawaiting⟩, haround⟩
        (h.root_eq_none hsegments) ?_ (Or.inr rfl)
      intro value hvalue
      cases hvalue
      exact hproper

theorem Shaped.of_write {s : BuildState} (h : s.Shaped) (text : String) :
    (s.write text).1.Shaped :=
  ⟨h.innermost, h.around, h.root_path, h.root_filled, h.held, h.pending_last, h.last_pending⟩

theorem Shaped.of_bindAttribute {s s' : BuildState} {key : String} {value : Value} {undo : Undo}
    (h : s.Shaped) (hok : s.bindAttribute key value = .ok (s', undo)) : s'.Shaped := by
  obtain ⟨segment, n, rest, hsegments, hnode, rfl, rfl⟩ := bindAttribute_eq_ok hok
  have haround := h.around _ _ hsegments
  obtain ⟨bound, hfilled, hbound⟩ := h.filled hsegments hnode
  refine h.of_open rfl rfl ⟨hfilled.references, hfilled.binds, hfilled.proper⟩ hbound haround
    (h.root_eq_none hsegments) (Or.inl rfl) ?_
  intro r hr
  obtain ⟨top, below, htop, hnone⟩ := h.last_pending r hr
  rw [hsegments] at htop
  cases htop
  rw [hnode] at hnone
  cases hnone

end BuildState

end Backtrack
