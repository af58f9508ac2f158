import Backtrack.Builder.State

/-!
What a terminal can do to a tree under construction.  `Change` has one case for
each way a terminal can succeed, with what has to hold before and with the undo
that is noted.  Everything that a terminal keeps is proved by these cases, and
nothing that follows opens the functions again.
-/

namespace Backtrack

theorem exists_of_bind_eq_ok {ε α β : Type} {x : Except ε α} {f : α → Except ε β} {b : β}
    (h : (x >>= f) = .ok b) : ∃ a, x = .ok a ∧ f a = .ok b := by
  cases x with
  | error e => cases h
  | ok a => exact ⟨a, rfl, h⟩

namespace BuildState

/-- What a terminal that succeeds does.  `id` names the segment it starts, if it
starts one. -/
inductive Change (id : PathId) (s : BuildState) : Terminal → BuildState → Undo → Prop
  | doctype (tag : DoctypeTag) : s.root = none → s.segments = [] →
      Change id s (.doctype tag) { s with doctype := some tag.attributes } (.doctype s.doctype)
  | openRoot (tag : OpenTag) : s.root = none → s.segments = [] →
      Change id s (.openNode tag) { s with segments := [{ id, node := some { tag } }] } .openRoot
  | openPending {segment : Segment} {rest : List Segment} (tag : OpenTag) :
      s.segments = segment :: rest → segment.node = none →
      Change id s (.openNode tag)
        { s with segments := { segment with node := some { tag } } :: rest } .openPending
  | closeRoot {segment : Segment} {n : Node} : s.segments = [segment] → segment.node = some n →
      Change id s .close { s with segments := [], root := some n }
        (.closeRoot segment.id segment.lastBound)
  | close {segment parent : Segment} {rest : List Segment} {n m m' : Node} {r : Reference}
      {how : Bound} : s.segments = segment :: parent :: rest → segment.node = some n →
      segment.reference = some r → parent.node = some m →
      m.bind r (.ofNode n) = .ok (m', how) →
      Change id s .close
        { s with segments := { parent with node := some m', lastBound := some r } :: rest }
        (.close segment.id r segment.lastBound how parent.lastBound)
  | literal {segment : Segment} {rest : List Segment} {n : Node} (text : String) :
      s.segments = segment :: rest → segment.node = some n →
      Change id s (.literal text)
        { s with segments :=
            { segment with node := some (n.addChild (.literal text)) } :: rest } .literal
  | reference {segment : Segment} {rest : List Segment} {n : Node} (r : Reference) :
      s.segments = segment :: rest → segment.node = some n → n.checkBindable r = .ok () →
      Change id s (.reference r)
        { s with segments := { id, reference := some r } ::
            { segment with node := some (n.addChild (.reference r)) } :: rest } .reference
  | null {segment parent : Segment} {rest : List Segment} {m m' : Node} {r : Reference}
      {how : Bound} : s.segments = segment :: parent :: rest → segment.node = none →
      segment.reference = some r → parent.node = some m → m.bind r .null = .ok (m', how) →
      Change id s .null
        { s with segments := { parent with node := some m', lastBound := some r } :: rest }
        (.bind segment.id r how parent.lastBound false)
  | gap {segment parent : Segment} {rest : List Segment} {m m' : Node} {r : Reference}
      {how : Bound} : s.segments = segment :: parent :: rest → segment.node = none →
      segment.reference = some r → parent.node = some m →
      m.bind r (s.held.getD .gap) = .ok (m', how) →
      Change id s .gap
        { s with
          held := none
          segments := { parent with node := some m', lastBound := some r } :: rest }
        (.bind segment.id r how parent.lastBound s.held.isSome)
  | shift {segment : Segment} {rest : List Segment} {n n' : Node} {r : Reference}
      {value : Property} {how : Unbound} : s.held = none → s.segments = segment :: rest →
      segment.node = some n → segment.lastBound = some r → n.unbind r = some (value, n', how) →
      Change id s .shift
        { s with
          held := some value
          segments := { id, reference := some r } ::
            { segment with node := some n', lastBound := none } :: rest }
        (.shift r how)

/-! ## The innermost segment -/

theorem openTop?_eq_some_iff {s : BuildState} {segment : Segment} {n : Node}
    {rest : List Segment} :
    s.openTop? = some (segment, n, rest) ↔
      s.segments = segment :: rest ∧ segment.node = some n := by
  unfold openTop?
  split
  · next hnil => simp [hnil]
  · next top below hcons =>
      rw [hcons, List.cons.injEq]
      cases hnode : top.node with
      | none =>
          simp only [Option.map_none, reduceCtorEq, false_iff]
          rintro ⟨⟨rfl, _⟩, hsome⟩
          rw [hnode] at hsome
          cases hsome
      | some m =>
          simp only [Option.map_some, Option.some.injEq, Prod.mk.injEq]
          constructor
          · rintro ⟨rfl, rfl, rfl⟩
            exact ⟨⟨rfl, rfl⟩, hnode⟩
          · rintro ⟨⟨rfl, rfl⟩, hsome⟩
            rw [hnode] at hsome
            exact ⟨rfl, Option.some.inj hsome, rfl⟩

theorem pendingTop?_eq_some_iff {s : BuildState} {segment : Segment} {rest : List Segment} :
    s.pendingTop? = some (segment, rest) ↔
      s.segments = segment :: rest ∧ segment.node = none := by
  unfold pendingTop?
  split
  · next hnil => simp [hnil]
  · next top below hcons =>
      rw [hcons, List.cons.injEq]
      split
      · next hnone =>
          simp only [Option.some.injEq, Prod.mk.injEq]
          constructor
          · rintro ⟨rfl, rfl⟩
            exact ⟨⟨rfl, rfl⟩, by simpa using hnone⟩
          · rintro ⟨⟨rfl, rfl⟩, _⟩
            exact ⟨rfl, rfl⟩
      · next hsome =>
          simp only [reduceCtorEq, false_iff]
          rintro ⟨⟨rfl, _⟩, hnone⟩
          simp [hnone] at hsome

theorem requireOpen_eq_ok_iff {s : BuildState} {action : String} {segment : Segment} {n : Node}
    {rest : List Segment} :
    s.requireOpen action = .ok (segment, n, rest) ↔
      s.segments = segment :: rest ∧ segment.node = some n := by
  rw [← openTop?_eq_some_iff]
  unfold requireOpen
  cases s.openTop? with
  | none => simp
  | some top => simp

theorem modifyNode_eq_ok_iff {s s' : BuildState} {action : String} {f : Node → Node} :
    s.modifyNode action f = .ok s' ↔
      ∃ segment n rest, s.segments = segment :: rest ∧ segment.node = some n ∧
        s' = { s with segments := { segment with node := some (f n) } :: rest } := by
  constructor
  · intro h
    obtain ⟨⟨segment, n, rest⟩, hopen, hok⟩ := exists_of_bind_eq_ok h
    obtain ⟨hsegments, hnode⟩ := requireOpen_eq_ok_iff.mp hopen
    cases hok
    exact ⟨segment, n, rest, hsegments, hnode, rfl⟩
  · rintro ⟨segment, n, rest, hsegments, hnode, rfl⟩
    have hopen : s.requireOpen action = .ok (segment, n, rest) :=
      requireOpen_eq_ok_iff.mpr ⟨hsegments, hnode⟩
    simp [modifyNode, hopen, Bind.bind, Except.bind, pure, Except.pure]

theorem eq_of_modifyNode {s s' : BuildState} {segment : Segment} {rest : List Segment} {n : Node}
    {action : String} {f : Node → Node} (hsegments : s.segments = segment :: rest)
    (hnode : segment.node = some n) (h : s.modifyNode action f = .ok s') :
    s' = { s with segments := { segment with node := some (f n) } :: rest } := by
  obtain ⟨segment', n', rest', hsegments', hnode', rfl⟩ := modifyNode_eq_ok_iff.mp h
  rw [hsegments, List.cons.injEq] at hsegments'
  obtain ⟨rfl, rfl⟩ := hsegments'
  rw [hnode, Option.some.injEq] at hnode'
  rw [hnode']

theorem bindOpen_eq_ok_iff {s s' : BuildState} {r : Reference} {value : Property}
    {action : String} {how : Bound} {previous : Option Reference} :
    s.bindOpen r value action = .ok (s', how, previous) ↔
      ∃ segment n n' rest, s.segments = segment :: rest ∧ segment.node = some n ∧
        n.bind r value = .ok (n', how) ∧ previous = segment.lastBound ∧
        s' = { s with
          segments := { segment with node := some n', lastBound := some r } :: rest } := by
  constructor
  · intro h
    obtain ⟨⟨segment, n, rest⟩, hopen, h⟩ := exists_of_bind_eq_ok h
    obtain ⟨⟨n', how'⟩, hbind, hok⟩ := exists_of_bind_eq_ok h
    obtain ⟨hsegments, hnode⟩ := requireOpen_eq_ok_iff.mp hopen
    cases hok
    exact ⟨segment, n, n', rest, hsegments, hnode, hbind, rfl, rfl⟩
  · rintro ⟨segment, n, n', rest, hsegments, hnode, hbind, rfl, rfl⟩
    have hopen : s.requireOpen action = .ok (segment, n, rest) :=
      requireOpen_eq_ok_iff.mpr ⟨hsegments, hnode⟩
    simp [bindOpen, hopen, hbind, Bind.bind, Except.bind, pure, Except.pure]

/-! ## Carrying out, when the innermost segment is an open node -/

section Open

variable {s : BuildState} {segment : Segment} {n : Node} {rest : List Segment}

theorem requireOpen_of_segments (hsegments : s.segments = segment :: rest)
    (hnode : segment.node = some n) (action : String) :
    s.requireOpen action = .ok (segment, n, rest) :=
  requireOpen_eq_ok_iff.mpr ⟨hsegments, hnode⟩

theorem modifyNode_of_segments (hsegments : s.segments = segment :: rest)
    (hnode : segment.node = some n) (action : String) (f : Node → Node) :
    s.modifyNode action f =
      .ok { s with segments := { segment with node := some (f n) } :: rest } :=
  modifyNode_eq_ok_iff.mpr ⟨segment, n, rest, hsegments, hnode, rfl⟩

theorem bindOpen_of_segments {n' : Node} {r : Reference} {value : Property} {how : Bound}
    (hsegments : s.segments = segment :: rest) (hnode : segment.node = some n)
    (hbind : n.bind r value = .ok (n', how)) (action : String) :
    s.bindOpen r value action =
      .ok ({ s with segments := { segment with node := some n', lastBound := some r } :: rest },
        how, segment.lastBound) :=
  bindOpen_eq_ok_iff.mpr ⟨segment, n, n', rest, hsegments, hnode, hbind, rfl, rfl⟩

end Open

/-! ## Inversion -/

theorem attempt_map (f : BuildState → BuildState) (s : BuildState)
    (x : Except BuildError (BuildState × Undo)) :
    (f s).attempt (x.map fun change => (f change.1, change.2)) =
      (f (s.attempt x).1, (s.attempt x).2) := by
  cases x <;> rfl

/-- A value is bound to the slot of a segment and that is noted.  A map of states that does
not disturb the first does not disturb both. -/
theorem bindSlot_map {f : BuildState → BuildState} {s t : BuildState} {value value' : Property}
    {action : String}
    (hbind : ∀ r, t.bindOpen r value' action =
      (s.bindOpen r value action).map fun bound => (f bound.1, bound.2))
    (reference : Option Reference) (undo : Reference → Bound → Option Reference → Undo) :
    (match reference with
      | none => throw (.noPendingReference action)
      | some r => do
        let (t, bound, previous) ← t.bindOpen r value' action
        return (t, undo r bound previous)) =
      (match reference with
        | none => throw (.noPendingReference action)
        | some r => do
          let (s, bound, previous) ← s.bindOpen r value action
          return (s, undo r bound previous) : Except BuildError (BuildState × Undo)).map
        fun change => (f change.1, change.2) := by
  cases reference with
  | none => rfl
  | some r =>
      dsimp only
      rw [hbind]
      cases s.bindOpen r value action <;> rfl

theorem attempt_eq_ok_iff {s s' : BuildState} {undo : Undo}
    {x : Except BuildError (BuildState × Undo)} :
    s.attempt x = (s', .ok undo) ↔ x = .ok (s', undo) := by
  unfold attempt
  split <;> simp

theorem attempt_eq_error {s s' : BuildState} {e : BuildError}
    {x : Except BuildError (BuildState × Undo)} (h : s.attempt x = (s', .error e)) : s' = s := by
  unfold attempt at h
  split at h <;> cases h
  rfl

/-- Binding to the reference that waits succeeds only under an open node. -/
theorem bindPending_eq_ok {s s' : BuildState} {value : Property} {tookHeld : Bool}
    {action : String} {undo : Undo} (h : s.bindPending value tookHeld action = (s', .ok undo)) :
    ∃ segment parent rest m m' r how, s.segments = segment :: parent :: rest ∧
      segment.node = none ∧ segment.reference = some r ∧ parent.node = some m ∧
      m.bind r value = .ok (m', how) ∧
      s' = { s with
        held := if tookHeld then none else s.held
        segments := { parent with node := some m', lastBound := some r } :: rest } ∧
      undo = .bind segment.id r how parent.lastBound tookHeld := by
  unfold bindPending at h
  split at h
  · cases h
  · next segment below htop =>
      obtain ⟨hsegments, hnode⟩ := pendingTop?_eq_some_iff.mp htop
      have hdo := attempt_eq_ok_iff.mp h
      split at hdo
      · cases hdo
      · next r hreference =>
          obtain ⟨⟨s'', how, previous⟩, hbind, hok⟩ := exists_of_bind_eq_ok hdo
          obtain ⟨parent, m, m', rest, hbelow, hparent, hbound, rfl, rfl⟩ :=
            bindOpen_eq_ok_iff.mp hbind
          cases hok
          cases hbelow
          exact ⟨segment, parent, rest, m, m', r, how, hsegments, hnode, hreference, hparent,
            hbound, rfl, rfl⟩

theorem change_of_applyClose {id : PathId} {s s' : BuildState} {undo : Undo}
    (h : s.applyClose = (s', .ok undo)) : Change id s .close s' undo := by
  unfold applyClose at h
  split at h
  · cases h
  · next segment n htop =>
      obtain ⟨hsegments, hnode⟩ := openTop?_eq_some_iff.mp htop
      cases h
      exact .closeRoot hsegments hnode
  · next segment n below _ htop =>
      obtain ⟨hsegments, hnode⟩ := openTop?_eq_some_iff.mp htop
      have hdo := attempt_eq_ok_iff.mp h
      split at hdo
      · cases hdo
      · next r hreference =>
          obtain ⟨⟨s'', how, previous⟩, hbind, hok⟩ := exists_of_bind_eq_ok hdo
          obtain ⟨parent, m, m', rest, hparents, hparent, hbound, rfl, rfl⟩ :=
            bindOpen_eq_ok_iff.mp hbind
          cases hok
          cases hparents
          exact .close hsegments hnode hreference hparent hbound

theorem change_of_applyShift {id : PathId} {s s' : BuildState} {undo : Undo}
    (h : s.applyShift id = (s', .ok undo)) : Change id s .shift s' undo := by
  unfold applyShift at h
  split at h
  · cases h
  · next hheld =>
      split at h
      · cases h
      · next segment n rest htop =>
          obtain ⟨hsegments, hnode⟩ := openTop?_eq_some_iff.mp htop
          split at h
          · cases h
          · next r hlast =>
              simp only at h
              split at h
              · cases h
              · next value n' how hunbind =>
                  cases h
                  exact .shift (by simpa using hheld) hsegments hnode hlast hunbind

/-- A terminal that succeeds is one of the cases of `Change`. -/
theorem change_of_apply {id : PathId} {s s' : BuildState} {t : Terminal} {undo : Undo}
    (h : s.apply id t = (s', .ok undo)) : Change id s t s' undo := by
  cases t with
  | doctype tag =>
      have hdo := attempt_eq_ok_iff.mp h
      unfold applyDoctype at hdo
      split at hdo
      · cases hdo
      · next hfresh =>
          simp only [Bool.or_eq_true, Bool.not_eq_true', not_or, Bool.not_eq_true,
            Bool.not_eq_false, Option.isSome_eq_false_iff, Option.isNone_iff_eq_none,
            List.isEmpty_iff] at hfresh
          cases hdo
          exact .doctype tag hfresh.1 hfresh.2
  | openNode tag =>
      have hdo := attempt_eq_ok_iff.mp h
      unfold applyOpen at hdo
      split at hdo
      · next hnil =>
          split at hdo
          · cases hdo
          · next hroot =>
              cases hdo
              exact .openRoot tag (by simpa using hroot) hnil
      · next segment rest hsegments =>
          split at hdo
          · cases hdo
          · next hnode =>
              cases hdo
              exact .openPending tag hsegments (by simpa using hnode)
  | close => exact change_of_applyClose h
  | literal text =>
      obtain ⟨s'', hmodify, hok⟩ := exists_of_bind_eq_ok (attempt_eq_ok_iff.mp h)
      obtain ⟨segment, n, rest, hsegments, hnode, rfl⟩ := modifyNode_eq_ok_iff.mp hmodify
      cases hok
      exact .literal text hsegments hnode
  | gap =>
      obtain ⟨segment, parent, rest, m, m', r, how, hsegments, hnode, hreference, hparent,
        hbound, rfl, rfl⟩ := bindPending_eq_ok h
      have hheld : (if s.held.isSome then none else s.held) = none := by
        cases s.held <;> rfl
      rw [hheld]
      exact .gap hsegments hnode hreference hparent hbound
  | shift => exact change_of_applyShift h
  | reference r =>
      obtain ⟨⟨segment, n, rest⟩, hopen, hdo⟩ := exists_of_bind_eq_ok (attempt_eq_ok_iff.mp h)
      obtain ⟨hsegments, hnode⟩ := requireOpen_eq_ok_iff.mp hopen
      obtain ⟨_, hfree, hdo⟩ := exists_of_bind_eq_ok hdo
      obtain ⟨s'', hmodify, hok⟩ := exists_of_bind_eq_ok hdo
      obtain rfl := eq_of_modifyNode hsegments hnode hmodify
      cases hok
      exact .reference r hsegments hnode hfree
  | null =>
      obtain ⟨segment, parent, rest, m, m', r, how, hsegments, hnode, hreference, hparent,
        hbound, rfl, rfl⟩ := bindPending_eq_ok h
      exact .null hsegments hnode hreference hparent hbound

/-! ## Every change is carried out -/

theorem bindPending_of_segments {s : BuildState} {segment parent : Segment} {rest : List Segment}
    {m m' : Node} {r : Reference} {value : Property} {how : Bound}
    (hsegments : s.segments = segment :: parent :: rest) (hnode : segment.node = none)
    (hreference : segment.reference = some r) (hparent : parent.node = some m)
    (hbind : m.bind r value = .ok (m', how)) (tookHeld : Bool) (action : String) :
    s.bindPending value tookHeld action =
      ({ s with
          held := if tookHeld then none else s.held
          segments := { parent with node := some m', lastBound := some r } :: rest },
        .ok (.bind segment.id r how parent.lastBound tookHeld)) := by
  have htop : s.pendingTop? = some (segment, parent :: rest) :=
    pendingTop?_eq_some_iff.mpr ⟨hsegments, hnode⟩
  have hopen := fun held =>
    @bindOpen_of_segments { s with held, segments := parent :: rest } _ _ _ _ _ _ _ rfl hparent
      hbind action
  simp [bindPending, htop, hreference, hopen, attempt, Bind.bind, Except.bind, pure, Except.pure]

theorem apply_of_change {id : PathId} {s s' : BuildState} {t : Terminal} {undo : Undo}
    (h : Change id s t s' undo) : s.apply id t = (s', .ok undo) := by
  cases h with
  | doctype tag hroot hsegments =>
      simp [apply, applyDoctype, attempt, hroot, hsegments]
  | openRoot tag hroot hsegments =>
      simp [apply, applyOpen, attempt, hroot, hsegments]
  | openPending tag hsegments hnode =>
      simp [apply, applyOpen, attempt, hsegments, hnode]
  | closeRoot hsegments hnode =>
      have htop := openTop?_eq_some_iff.mpr ⟨hsegments, hnode⟩
      simp [apply, applyClose, htop]
  | @close segment parent rest _ m m' r how hsegments hnode hreference hparent hbind =>
      have htop := openTop?_eq_some_iff.mpr ⟨hsegments, hnode⟩
      have hopen := @bindOpen_of_segments { s with segments := parent :: rest } _ _ _ _ _ _ _ rfl
        hparent hbind "close"
      simp [apply, applyClose, htop, hreference, hopen, attempt, Bind.bind, Except.bind, pure,
        Except.pure]
  | literal text hsegments hnode =>
      have hmodify := modifyNode_of_segments hsegments hnode "literal" (·.addChild (.literal text))
      simp [apply, applyLiteral, hmodify, attempt, Bind.bind, Except.bind, pure, Except.pure]
  | reference r hsegments hnode hfree =>
      have hopen := requireOpen_of_segments hsegments hnode "reference"
      have hmodify := modifyNode_of_segments hsegments hnode "reference" (·.addChild (.reference r))
      simp [apply, applyReference, hopen, hfree, hmodify, attempt, Bind.bind, Except.bind, pure,
        Except.pure]
  | null hsegments hnode hreference hparent hbind =>
      exact bindPending_of_segments hsegments hnode hreference hparent hbind false "null"
  | gap hsegments hnode hreference hparent hbind =>
      have hheld : (if s.held.isSome then none else s.held) = none := by
        cases s.held <;> rfl
      have hgap := bindPending_of_segments hsegments hnode hreference hparent hbind
        s.held.isSome "gap"
      rwa [hheld] at hgap
  | shift hheld hsegments hnode hlast hunbind =>
      have htop := openTop?_eq_some_iff.mpr ⟨hsegments, hnode⟩
      simp [apply, applyShift, hheld, htop, hlast, hunbind]

theorem bindAttribute_eq_ok {s s' : BuildState} {key : String} {value : Value} {undo : Undo}
    (h : s.bindAttribute key value = .ok (s', undo)) :
    ∃ segment n rest, s.segments = segment :: rest ∧ segment.node = some n ∧
      s' = { s with segments := { segment with node := some { n with tag :=
        { n.tag with attributes := n.tag.attributes.insert key value } } } :: rest } ∧
      undo = .attribute key (n.tag.attributes.get? key) := by
  obtain ⟨⟨segment, n, rest⟩, hopen, hdo⟩ := exists_of_bind_eq_ok h
  obtain ⟨hsegments, hnode⟩ := requireOpen_eq_ok_iff.mp hopen
  obtain ⟨s'', hmodify, hok⟩ := exists_of_bind_eq_ok hdo
  obtain rfl := eq_of_modifyNode hsegments hnode hmodify
  cases hok
  exact ⟨segment, n, rest, hsegments, hnode, rfl, rfl⟩

theorem bindAttribute_of_segments {s : BuildState} {segment : Segment} {rest : List Segment}
    {n : Node} (hsegments : s.segments = segment :: rest) (hnode : segment.node = some n)
    (key : String) (value : Value) :
    s.bindAttribute key value =
      .ok ({ s with segments := { segment with node := some { n with tag :=
        { n.tag with attributes := n.tag.attributes.insert key value } } } :: rest },
        .attribute key (n.tag.attributes.get? key)) := by
  have hopen := requireOpen_of_segments hsegments hnode "bindAttribute"
  have hmodify := modifyNode_of_segments hsegments hnode "bindAttribute" fun node =>
    { node with tag := { node.tag with attributes := node.tag.attributes.insert key value } }
  simp [bindAttribute, hopen, hmodify, Bind.bind, Except.bind, pure, Except.pure]

end BuildState

end Backtrack
