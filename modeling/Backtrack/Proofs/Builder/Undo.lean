import Backtrack.Proofs.Builder.Shape

/-!
Undos.  Every change of a tree under construction is taken back exactly by the
undo that was noted for it, so a series of changes is taken back by its undos,
the latest first.
-/

namespace Backtrack

namespace Segment

theorem eq_of_node {segment : Segment} {n : Option Node} (h : segment.node = n) :
    { segment with node := n } = segment := by
  subst h
  rfl

end Segment

namespace BuildState

theorem eq_of_segments {s : BuildState} {segments : List Segment} (h : s.segments = segments) :
    { s with segments } = s := by
  subst h
  rfl

theorem unbindOpen_of_bind (s : BuildState) (rest : List Segment) {parent : Segment} {m m' : Node}
    {r : Reference} {value : Property} {how : Bound} (hparent : parent.node = some m)
    (hbind : m.bind r value = .ok (m', how)) :
    unbindOpen { s with segments := { parent with node := some m', lastBound := some r } :: rest }
        r how parent.lastBound =
      .ok ({ s with segments := parent :: rest }, value) := by
  have hopen : requireOpen
      { s with segments := { parent with node := some m', lastBound := some r } :: rest }
      "reject" = .ok ({ parent with node := some m', lastBound := some r }, m', rest) :=
    requireOpen_eq_ok_iff.mpr ⟨rfl, rfl⟩
  have hrevert : m'.revertBind r how = some (value, m) := Node.revertBind_bind hbind
  have hback : ({ parent with node := some m } : Segment) = parent := Segment.eq_of_node hparent
  simp [unbindOpen, hopen, hrevert, hback, Bind.bind, Except.bind, pure, Except.pure]

theorem modifyNode_of_modified (s : BuildState) (rest : List Segment) {segment : Segment}
    {n : Node} (n' : Node) (f : Node → Node) (hnode : segment.node = some n) (hf : f n' = n) :
    modifyNode { s with segments := { segment with node := some n' } :: rest } "reject" f =
      .ok { s with segments := segment :: rest } := by
  refine modifyNode_eq_ok_iff.mpr ⟨{ segment with node := some n' }, n', rest, rfl, rfl, ?_⟩
  have hback : ({ segment with node := some n } : Segment) = segment := Segment.eq_of_node hnode
  simp [hf, hback]

theorem Shaped.eq_of_pending {s : BuildState} {segment : Segment} {rest : List Segment}
    {r : Reference} (h : s.Shaped) (hsegments : s.segments = segment :: rest)
    (hnode : segment.node = none) (hreference : segment.reference = some r) :
    Segment.mk segment.id (some r) none none = segment := by
  obtain ⟨hlast, _⟩ := h.pending hsegments hnode
  cases segment
  cases hnode
  cases hreference
  cases hlast
  rfl

theorem Shaped.revert_of_change {id : PathId} {s s' : BuildState} {t : Terminal} {undo : Undo}
    (h : s.Shaped) (hchange : Change id s t s' undo) : s'.revert undo = .ok s := by
  cases hchange with
  | doctype tag hroot hsegments => rfl
  | openRoot tag hroot hsegments =>
      have hback := eq_of_segments hsegments
      simpa [revert] using hback
  | @openPending segment rest tag hsegments hnode =>
      have hopen : requireOpen
          { s with segments := { segment with node := some { tag } } :: rest } "reject" =
          .ok ({ segment with node := some { tag } }, { tag }, rest) :=
        requireOpen_eq_ok_iff.mpr ⟨rfl, rfl⟩
      have hsegment : ({ segment with node := none } : Segment) = segment :=
        Segment.eq_of_node hnode
      have hback := eq_of_segments hsegments
      simpa [revert, hopen, hsegment, Bind.bind, Except.bind, pure, Except.pure] using hback
  | @closeRoot segment n hsegments hnode =>
      -- The root is reached through no reference, and no other root is closed.
      have hreference : segment.reference = none := by
        have haround := h.around segment [] hsegments
        cases hr : segment.reference with
        | none => rfl
        | some r =>
            rw [hr] at haround
            exact absurd haround (by simp [Around])
      have hroot := h.root_eq_none hsegments
      have hsegment : Segment.mk segment.id none (some n) segment.lastBound = segment := by
        rw [← hnode, ← hreference]
      simp [revert, hsegment, ← hsegments, ← hroot]
  | @close segment parent rest n m m' r how hsegments hnode hreference hparent hbind =>
      have hunbind := unbindOpen_of_bind s rest hparent hbind
      have hsegment : Segment.mk segment.id (some r) (some n) segment.lastBound = segment := by
        rw [← hnode, ← hreference]
      simp [revert, hunbind, hsegment, ← hsegments, Bind.bind, Except.bind, pure, Except.pure]
  | @literal segment rest n text hsegments hnode =>
      have hmodify := modifyNode_of_modified s rest (n.addChild (.literal text)) Node.dropChild hnode
        (n.dropChild_addChild (.literal text))
      simp [revert, hmodify, ← hsegments]
  | @reference segment rest n r hsegments hnode hfree =>
      have hmodify := modifyNode_of_modified s rest (n.addChild (.reference r)) Node.dropChild hnode
        (n.dropChild_addChild (.reference r))
      simp [revert, hmodify, ← hsegments]
  | @null segment parent rest m m' r how hsegments hnode hreference hparent hbind =>
      have hunbind := unbindOpen_of_bind s rest hparent hbind
      have hsegment := h.eq_of_pending hsegments hnode hreference
      simp [revert, hunbind, hsegment, ← hsegments, Bind.bind, Except.bind, pure, Except.pure]
  | @gap segment parent rest m m' r how hsegments hnode hreference hparent hbind =>
      have hunbind := unbindOpen_of_bind { s with held := none } rest hparent hbind
      have hsegment := h.eq_of_pending hsegments hnode hreference
      have hheld : (if s.held.isSome then some (s.held.getD .gap) else none) = s.held := by
        cases s.held <;> rfl
      simp [revert, hunbind, hsegment, hheld, ← hsegments, Bind.bind, Except.bind, pure,
        Except.pure]
  | @shift segment rest n n' r value how hheld hsegments hnode hlast hunbind =>
      have hopen : requireOpen { s with held := none, segments :=
          { segment with node := some n', lastBound := none } :: rest } "reject" =
          .ok ({ segment with node := some n', lastBound := none }, n', rest) :=
        requireOpen_eq_ok_iff.mpr ⟨rfl, rfl⟩
      have hrevert : n'.revertUnbind r value how = n := Node.revertUnbind_unbind hunbind
      have hsegment : ({ segment with node := some n, lastBound := some r } : Segment) =
          segment := by
        rw [← hnode, ← hlast]
      have hback : ({ s with held := none, segments := segment :: rest } : BuildState) = s := by
        rw [← hsegments, ← hheld]
      simp [revert, hopen, hrevert, hsegment, hback, Bind.bind, Except.bind, pure, Except.pure]

theorem revert_setLast (s : BuildState) (t : Terminal) :
    (s.setLast t).1.revert (s.setLast t).2 = .ok s := rfl

theorem revert_write (s : BuildState) (text : String) :
    (s.write text).1.revert (s.write text).2 = .ok s := by
  have hback : (s.written.toList ++ text.toList).take s.written.length = s.written.toList := by
    rw [← String.length_toList, List.take_left]
  simp [write, revert, hback]

theorem revert_bindAttribute {s s' : BuildState} {key : String} {value : Value} {undo : Undo}
    (h : s.bindAttribute key value = .ok (s', undo)) : s'.revert undo = .ok s := by
  obtain ⟨segment, n, rest, hsegments, hnode, rfl, rfl⟩ := bindAttribute_eq_ok h
  have hback := modifyNode_of_modified s rest
    { n with tag := { n.tag with attributes := n.tag.attributes.insert key value } }
    (fun node => { node with tag := { node.tag with
      attributes := node.tag.attributes.restore key (n.tag.attributes.get? key) } })
    hnode (by simp [Attributes.restore_insert])
  simp [revert, hback, ← hsegments]

/-! ## Series of changes -/

theorem revertAll_append {s s' : BuildState} {later earlier : List Undo}
    (h : s.revertAll later = .ok s') :
    s.revertAll (later ++ earlier) = s'.revertAll earlier := by
  unfold revertAll at h ⊢
  rw [List.foldlM_append, h]
  rfl

theorem revertAll_cons {s s' : BuildState} {undo : Undo} {earlier : List Undo}
    (h : s.revert undo = .ok s') : s.revertAll (undo :: earlier) = s'.revertAll earlier := by
  simp [revertAll, h, Bind.bind, Except.bind]

end BuildState

end Backtrack
