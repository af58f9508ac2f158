import Backtrack.Proofs.Builder.Mirror

/-!
Binding a slot to null.  In an open node a reference whose slot is free and a null
after it always succeed, and the tree that comes of it does not depend on the name
of the segment that the reference takes.  Without an open node the reference
fails.
-/

namespace Backtrack

theorem Node.checkBindable_of_hasProperty {n : Node} {r : Reference}
    (h : n.hasProperty r.name = false) : n.checkBindable r = .ok () := by
  have hnone : n.property? r.name = none := by simpa [hasProperty] using h
  rw [checkBindable, hnone]

namespace BuildState

theorem apply_reference {s : BuildState} {segment : Segment} {rest : List Segment} {n : Node}
    {r : Reference} (id : PathId) (hsegments : s.segments = segment :: rest)
    (hnode : segment.node = some n) (hfree : n.checkBindable r = .ok ()) :
    s.apply id (.reference r) =
      ({ s with segments := { id, reference := some r } ::
          { segment with node := some (n.addChild (.reference r)) } :: rest },
        .ok .reference) := by
  have hopen : s.requireOpen "reference" = .ok (segment, n, rest) :=
    requireOpen_eq_ok_iff.mpr ⟨hsegments, hnode⟩
  have hmodify : s.modifyNode "reference" (·.addChild (.reference r)) =
      .ok { s with segments := { segment with node := some (n.addChild (.reference r)) } :: rest } :=
    modifyNode_eq_ok_iff.mpr ⟨segment, n, rest, hsegments, hnode, rfl⟩
  simp [apply, applyReference, hopen, hfree, hmodify, attempt, Bind.bind, Except.bind, pure,
    Except.pure]

theorem apply_reference_of_openTop? {s : BuildState} (id : PathId) (r : Reference)
    (h : s.openTop? = none) :
    s.apply id (.reference r) = (s, .error (.noOpenNode "reference")) := by
  simp [apply, applyReference, requireOpen, h, attempt, Bind.bind, Except.bind]

theorem apply_null {s : BuildState} {segment parent : Segment} {rest : List Segment} {m m' : Node}
    {r : Reference} {how : Bound} (id : PathId) (hsegments : s.segments = segment :: parent :: rest)
    (hnode : segment.node = none) (hreference : segment.reference = some r)
    (hparent : parent.node = some m) (hbind : m.bind r .null = .ok (m', how)) :
    s.apply id .null =
      ({ s with segments := { parent with node := some m', lastBound := some r } :: rest },
        .ok (.bind segment.id r how parent.lastBound false)) := by
  have hpending : s.pendingTop? = some (segment, parent :: rest) :=
    pendingTop?_eq_some_iff.mpr ⟨hsegments, hnode⟩
  have hopen : bindOpen { s with segments := parent :: rest } r .null "null" =
      .ok ({ s with segments := { parent with node := some m', lastBound := some r } :: rest },
        how, parent.lastBound) :=
    bindOpen_eq_ok_iff.mpr ⟨parent, m, m', rest, rfl, hparent, hbind, rfl, rfl⟩
  simp [apply, applyNull, bindPending, hpending, hreference, hopen, attempt, Bind.bind,
    Except.bind, pure, Except.pure]

end BuildState

namespace Builder

theorem openTop?_of_node? {b : Builder} {n : Node} (h : b.node? = some n) :
    ∃ segment rest, b.state.segments = segment :: rest ∧ segment.node = some n := by
  rw [node?] at h
  cases hsegments : b.state.segments with
  | nil => simp [hsegments] at h
  | cons segment rest =>
      rw [hsegments, List.head?_cons, Option.bind_some] at h
      exact ⟨segment, rest, rfl, h⟩

theorem openTop?_ne_none_of_node? {b : Builder} {n : Node} (h : b.node? = some n) :
    b.state.openTop? ≠ none := by
  obtain ⟨segment, rest, hsegments, hnode⟩ := openTop?_of_node? h
  rw [BuildState.openTop?_eq_some_iff.mpr ⟨hsegments, hnode⟩]
  nofun

theorem openTop?_eq_none_of_node? {b : Builder} (h : b.node? = none) :
    b.state.openTop? = none := by
  unfold node? at h
  unfold BuildState.openTop?
  split
  · rfl
  · next segment rest hsegments =>
      rw [hsegments, List.head?_cons, Option.bind_some] at h
      rw [h, Option.map_none]

theorem advance_reference_of_node? {b : Builder} (r : Reference) (h : b.node? = none) :
    (b.advance (.reference r)).2 = .error (.build (.noOpenNode "reference")) := by
  rw [advance_eq, BuildState.apply_reference_of_openTop? _ r (openTop?_eq_none_of_node? h)]

theorem advance_eq_of_apply {b : Builder} {t : Terminal} {s : BuildState} {undo : Undo}
    (h : b.state.apply ⟨b.nextId⟩ t = (s, .ok undo)) :
    (b.advance t).2 = .ok (.tag t) ∧ (b.advance t).1.state = { s with last := some t } := by
  rw [advance_eq, h]
  exact ⟨rfl, by simp [BuildState.setLast]⟩

/-- Builders with the same tree bind a free slot to null alike. -/
theorem backfill {s : BuildState} {segment : Segment} {rest : List Segment} {n : Node}
    {r : Reference} (h : s.Shaped) (hsegments : s.segments = segment :: rest)
    (hnode : segment.node = some n) (hfree : n.checkBindable r = .ok ()) :
    ∃ s', ∀ b : Builder, b.state = s →
      (b.advance (.reference r)).2 = .ok (.tag (.reference r)) ∧
        ((b.advance (.reference r)).1.advance .null).2 = .ok (.tag .null) ∧
        ((b.advance (.reference r)).1.advance .null).1.state = s' := by
  obtain ⟨bound, hfilled, _⟩ := h.filled hsegments hnode
  obtain ⟨properties, how, hbind, _⟩ := (hfilled.addReference hfree).bind .null
  refine ⟨{ s with
    segments := { segment with
      node := some { n.addChild (.reference r) with properties }, lastBound := some r } :: rest
    last := some .null }, ?_⟩
  rintro b rfl
  have hreference := advance_eq_of_apply
    (BuildState.apply_reference ⟨b.nextId⟩ hsegments hnode hfree)
  obtain ⟨hanswer, hstate⟩ := hreference
  have hnull := advance_eq_of_apply (b := (b.advance (.reference r)).1)
    (BuildState.apply_null ⟨_⟩ (by rw [hstate]) rfl rfl rfl hbind)
  exact ⟨hanswer, hnull.1, by rw [hnull.2, hstate]⟩

end Builder

end Backtrack
