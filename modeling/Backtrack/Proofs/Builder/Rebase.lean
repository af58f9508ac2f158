import Backtrack.Proofs.Builder.Edits

/-!
Building at another place.  What is built above some segments of the path does not
depend on them: over other segments the same edits build the same, up to the names of
the segments.  Only when the lowest segment above them is left does the value that was
built meet what lies below.
-/

namespace Backtrack

namespace BuildState

/-- The same is built above `low` as above `low'`.  The lowest segment of what is built
is reached through `r` in one path and through `r'` in the other. -/
inductive Atop (r r' : Option Reference) (low low' : List Segment) :
    List Segment → List Segment → Prop
  | bottom (id id' : PathId) (node : Option Node) (lastBound : Option Reference) :
      Atop r r' low low' ({ id, reference := r, node, lastBound } :: low)
        ({ id := id', reference := r', node, lastBound } :: low')
  | above (id id' : PathId) (reference : Option Reference) (node : Option Node)
      (lastBound : Option Reference) {rest rest' : List Segment} :
      Atop r r' low low' rest rest' →
      Atop r r' low low' ({ id, reference, node, lastBound } :: rest)
        ({ id := id', reference, node, lastBound } :: rest')

variable {r r' : Option Reference} {low low' : List Segment} {segments segments' : List Segment}

theorem Atop.length_lt (h : Atop r r' low low' segments segments') :
    low.length < segments.length := by
  induction h with
  | bottom => exact Nat.lt_succ_self _
  | above _ _ _ _ _ _ ih => exact Nat.lt_succ_of_lt ih

theorem Atop.top {segment : Segment} {rest : List Segment}
    (h : Atop r r' low low' (segment :: rest) segments') :
    ∃ id reference rest', segments' = { segment with id, reference } :: rest' ∧
      ∀ node lastBound, Atop r r' low low' ({ segment with node, lastBound } :: rest)
        ({ id, reference, node, lastBound } :: rest') := by
  cases h with
  | bottom id id' => exact ⟨_, _, _, rfl, fun _ _ => .bottom id id' _ _⟩
  | above id id' reference _ _ hrest =>
      exact ⟨_, _, _, rfl, fun _ _ => .above id id' reference _ _ hrest⟩

/-- A segment that is not the lowest one lies over another.  What lies around it may be
changed alike once it is left. -/
theorem Atop.pop {segment parent : Segment} {rest : List Segment}
    (h : Atop r r' low low' (segment :: parent :: rest) segments')
    (hlength : low.length < (parent :: rest).length) :
    ∃ id id' reference rest',
      segments' = { segment with id } :: { parent with id := id', reference } :: rest' ∧
      ∀ node lastBound, Atop r r' low low' ({ parent with node, lastBound } :: rest)
        ({ id := id', reference, node, lastBound } :: rest') := by
  cases h with
  | bottom => exact absurd hlength (Nat.lt_irrefl _)
  | above _ id _ _ _ hrest =>
      obtain ⟨id', reference, rest', rfl, hchanged⟩ := hrest.top
      exact ⟨id, id', reference, rest', rfl, hchanged⟩

theorem Atop.eq_bottom {segment : Segment} {rest : List Segment}
    (h : Atop r r' low low' (segment :: rest) segments') (hlength : rest.length = low.length) :
    rest = low ∧ segment.reference = r ∧
      ∃ id, segments' = { segment with id, reference := r' } :: low' := by
  cases h with
  | bottom => exact ⟨rfl, rfl, _, rfl⟩
  | above _ _ _ _ _ hrest =>
      have hlt := hrest.length_lt
      omega

/-- The trees are alike but for what lies below what is built, and for the last terminal. -/
structure Rebased (r r' : Option Reference) (low low' : List Segment) (s s' : BuildState) :
    Prop where
  doctype : s'.doctype = s.doctype
  root : s'.root = s.root
  held : s'.held = s.held
  written : s'.written = s.written
  segments : Atop r r' low low' s.segments s'.segments

variable {s s' t : BuildState}

theorem Rebased.change {segments segments' : List Segment} (h : Rebased r r' low low' s s')
    (hsegments : Atop r r' low low' segments segments') (last last' : Option Terminal) :
    Rebased r r' low low' { s with segments, last } { s' with segments := segments', last := last' } :=
  ⟨h.doctype, h.root, h.held, h.written, hsegments⟩

theorem Rebased.hold (h : Rebased r r' low low' s s') (held : Option Property) :
    Rebased r r' low low' { s with held } { s' with held } :=
  ⟨h.doctype, h.root, rfl, h.written, h.segments⟩

/-- A terminal that leaves the lowest segment on the path does the same at both places. -/
theorem Rebased.of_change {id : PathId} {terminal : Terminal} {undo : Undo}
    (h : Rebased r r' low low' s s') (hchange : Change id s terminal t undo)
    (hheight : low.length < t.segments.length) (id' : PathId) :
    ∃ t' undo', Change id' s' terminal t' undo' ∧
      Rebased r r' low low' { t with last := some terminal } { t' with last := some terminal } := by
  have hatop := h.segments
  cases hchange with
  | doctype tag _ hnil =>
      rw [hnil] at hheight
      exact absurd hheight (Nat.not_lt_zero _)
  | openRoot tag _ hnil =>
      rw [hnil] at hatop
      cases hatop
  | openPending tag hsegments hnode =>
      rw [hsegments] at hatop
      obtain ⟨_, _, _, hsegments', hchanged⟩ := hatop.top
      exact ⟨_, _, .openPending tag hsegments' hnode, h.change (hchanged _ _) _ _⟩
  | closeRoot => exact absurd hheight (Nat.not_lt_zero _)
  | close hsegments hnode hreference hparent hbind =>
      rw [hsegments] at hatop
      obtain ⟨_, _, _, _, hsegments', hchanged⟩ := hatop.pop hheight
      exact ⟨_, _, .close hsegments' hnode hreference hparent hbind,
        h.change (hchanged _ _) _ _⟩
  | literal text hsegments hnode =>
      rw [hsegments] at hatop
      obtain ⟨_, _, _, hsegments', hchanged⟩ := hatop.top
      exact ⟨_, _, .literal text hsegments' hnode, h.change (hchanged _ _) _ _⟩
  | reference r hsegments hnode hfree =>
      rw [hsegments] at hatop
      obtain ⟨_, _, _, hsegments', hchanged⟩ := hatop.top
      exact ⟨_, _, .reference r hsegments' hnode hfree,
        h.change (.above _ _ _ _ _ (hchanged _ _)) _ _⟩
  | null hsegments hnode hreference hparent hbind =>
      rw [hsegments] at hatop
      obtain ⟨_, _, _, _, hsegments', hchanged⟩ := hatop.pop hheight
      exact ⟨_, _, .null hsegments' hnode hreference hparent hbind,
        h.change (hchanged _ _) _ _⟩
  | gap hsegments hnode hreference hparent hbind =>
      rw [hsegments] at hatop
      obtain ⟨_, _, _, _, hsegments', hchanged⟩ := hatop.pop hheight
      rw [← h.held] at hbind
      exact ⟨_, _, .gap hsegments' hnode hreference hparent hbind,
        (h.hold none).change (hchanged _ _) _ _⟩
  | shift hheld hsegments hnode hlast hunbind =>
      rw [hsegments] at hatop
      obtain ⟨_, _, _, hsegments', hchanged⟩ := hatop.top
      exact ⟨_, _, .shift (h.held.trans hheld) hsegments' hnode hlast hunbind,
        (h.hold _).change (.above _ _ _ _ _ (hchanged _ _)) _ _⟩

theorem Rebased.of_edited {id : PathId} {edit : Edit} (h : Rebased r r' low low' s s')
    (hedited : Edited id s edit t) (hheight : low.length < t.segments.length) (id' : PathId) :
    ∃ t', Edited id' s' edit t' ∧ Rebased r r' low low' t t' := by
  cases hedited with
  | advance hchange =>
      obtain ⟨t', undo', hchange', hrebased⟩ := h.of_change hchange hheight id'
      exact ⟨_, .advance hchange', hrebased⟩
  | write text =>
      refine ⟨_, .write text, h.doctype, h.root, h.held, ?_, h.segments⟩
      exact congrArg (· ++ text) h.written
  | bindAttribute hok =>
      have hatop := h.segments
      obtain ⟨segment, n, rest, hsegments, hnode, rfl, _⟩ := bindAttribute_eq_ok hok
      rw [hsegments] at hatop
      obtain ⟨_, _, _, hsegments', hchanged⟩ := hatop.top
      exact ⟨_, .bindAttribute (bindAttribute_of_segments hsegments' hnode _ _),
        h.change (hchanged _ _) _ _⟩

/-- A terminal that leaves the lowest segment binds one value at both places. -/
theorem Rebased.of_leaving {id : PathId} {q q' : Reference} {parent : Segment}
    {rest : List Segment} {terminal : Terminal} {undo : Undo}
    (h : Rebased (some q) (some q') (parent :: rest) low' s s') (hshaped : s.Shaped)
    (hchange : Change id s terminal t undo) (hheight : t.segments.length = rest.length + 1)
    (id' : PathId) :
    ∃ value m m' how, value.Proper ∧ parent.node = some m ∧ m.bind q value = .ok (m', how) ∧
      t = { s with
        held := t.held
        segments := { parent with node := some m', lastBound := some q } :: rest } ∧
      ∀ {parent' : Segment} {rest' : List Segment} {k k' : Node} {how' : Bound},
        low' = parent' :: rest' → parent'.node = some k → k.bind q' value = .ok (k', how') →
        ∃ undo', Change id' s' terminal { s' with
          held := t.held
          segments := { parent' with node := some k', lastBound := some q' } :: rest' } undo' := by
  have hatop := h.segments
  have hlength := hatop.length_lt
  rw [List.length_cons] at hlength
  cases hchange with
  | doctype tag _ hnil => simp [hnil] at hlength
  | openRoot tag _ hnil => simp [hnil] at hlength
  | openPending tag hsegments hnode =>
      rw [hsegments, List.length_cons] at hlength
      rw [List.length_cons] at hheight
      omega
  | closeRoot => exact absurd hheight (by simp)
  | close hsegments hnode hreference hparent hbind =>
      rw [hsegments] at hatop
      obtain ⟨hbelow, hq, id₁, hsegments'⟩ := hatop.eq_bottom (by simpa using hheight)
      cases hbelow
      cases hreference.symm.trans hq
      obtain ⟨bound, hfilled, _⟩ := hshaped.filled hsegments hnode
      refine ⟨_, _, _, _, hfilled.proper_ofNode, hparent, hbind, rfl, ?_⟩
      rintro parent' rest' k k' how' rfl hparent' hbind'
      have hchange' : Change id' s' .close _ _ := .close hsegments' hnode rfl hparent' hbind'
      rw [h.held] at hchange'
      exact ⟨_, hchange'⟩
  | literal text hsegments hnode =>
      rw [hsegments, List.length_cons] at hlength
      rw [List.length_cons] at hheight
      omega
  | reference r hsegments hnode hfree =>
      rw [hsegments, List.length_cons] at hlength
      rw [List.length_cons, List.length_cons] at hheight
      omega
  | null hsegments hnode hreference hparent hbind =>
      rw [hsegments] at hatop
      obtain ⟨hbelow, hq, id₁, hsegments'⟩ := hatop.eq_bottom (by simpa using hheight)
      cases hbelow
      cases hreference.symm.trans hq
      refine ⟨_, _, _, _, .null, hparent, hbind, rfl, ?_⟩
      rintro parent' rest' k k' how' rfl hparent' hbind'
      have hchange' : Change id' s' .null _ _ := .null hsegments' hnode rfl hparent' hbind'
      rw [h.held] at hchange'
      exact ⟨_, hchange'⟩
  | gap hsegments hnode hreference hparent hbind =>
      rw [hsegments] at hatop
      obtain ⟨hbelow, hq, id₁, hsegments'⟩ := hatop.eq_bottom (by simpa using hheight)
      cases hbelow
      cases hreference.symm.trans hq
      refine ⟨_, _, _, _, hshaped.proper_held, hparent, hbind, rfl, ?_⟩
      rintro parent' rest' k k' how' rfl hparent' hbind'
      rw [← h.held] at hbind'
      exact ⟨_, .gap hsegments' hnode rfl hparent' hbind'⟩
  | shift hheld hsegments hnode hlast hunbind =>
      rw [hsegments, List.length_cons] at hlength
      rw [List.length_cons, List.length_cons] at hheight
      omega

end BuildState

namespace Builder

open BuildState (Rebased)

variable {r r' : Option Reference} {low low' : List Segment} {b b' c : Builder}

/-- Edits that leave the lowest segment on the path build the same at both places. -/
theorem exists_build_of_rebased {least : Nat} {edits : List Edit}
    (h : Rebased r r' low low' b.state c.state) (hleast : low.length < least)
    (hbuild : b.buildAbove least edits = some b') :
    ∃ c', c.build edits = some c' ∧ Rebased r r' low low' b'.state c'.state := by
  induction edits generalizing b c with
  | nil =>
      cases hbuild
      exact ⟨c, rfl, h⟩
  | cons edit rest ih =>
      obtain ⟨b₁, answer, hedit, hheight, hrest⟩ := buildAbove_cons_iff.mp hbuild
      obtain ⟨s, hedited, hrebased⟩ :=
        h.of_edited (edited_of_edit hedit) (Nat.lt_of_lt_of_le hleast hheight) ⟨c.nextId⟩
      refine exists_build_cons hedited fun c₁ hstate => ?_
      rw [← hstate] at hrebased
      exact ih hrebased hrest

end Builder

end Backtrack
