import Backtrack.Proofs.Builder.Change

/-!
The tags of the open nodes.  Opening a node puts its tag before the others and closing
takes it away again; no other terminal changes a tag, and setting an attribute changes
the innermost one only.
-/

namespace Backtrack

namespace Node

theorem tag_of_bind {n n' : Node} {r : Reference} {value : Property} {how : Bound}
    (h : n.bind r value = .ok (n', how)) : n'.tag = n.tag := by
  obtain ⟨_, _, hbound⟩ := exists_of_bind_eq_ok h
  split at hbound
  · split at hbound <;> cases hbound <;> rfl
  · cases hbound
    rfl

theorem tag_of_unbind {n n' : Node} {r : Reference} {value : Property} {how : Unbound}
    (h : n.unbind r = some (value, n', how)) : n'.tag = n.tag := by
  unfold unbind at h
  split at h
  · obtain ⟨_, _, hfreed⟩ := Option.bind_eq_some_iff.mp h
    cases hfreed
    rfl
  · split at h
    · cases h
      rfl
    · cases h

end Node

/-- What a terminal does to the tags of the open nodes. -/
def Terminal.onTags (t : Terminal) (tags : List OpenTag) : List OpenTag :=
  match t with
  | .openNode tag => tag :: tags
  | .close => tags.tail
  | _ => tags

namespace BuildState

def openTags (s : BuildState) : List OpenTag :=
  s.segments.filterMap fun segment => segment.node.map (·.tag)

theorem openTags_eq_cons {s : BuildState} {segment : Segment} {rest : List Segment} {n : Node}
    (hsegments : s.segments = segment :: rest) (hnode : segment.node = some n) :
    s.openTags = n.tag :: rest.filterMap fun segment => segment.node.map (·.tag) := by
  rw [openTags, hsegments, List.filterMap_cons, hnode]
  rfl

theorem openTags_of_pending {s : BuildState} {segment : Segment} {rest : List Segment}
    (hsegments : s.segments = segment :: rest) (hnode : segment.node = none) :
    s.openTags = rest.filterMap fun segment => segment.node.map (·.tag) := by
  rw [openTags, hsegments, List.filterMap_cons, hnode]
  rfl

theorem Change.openTags_eq {id : PathId} {s s' : BuildState} {t : Terminal} {undo : Undo}
    (h : Change id s t s' undo) : s'.openTags = t.onTags s.openTags := by
  cases h with
  | doctype tag _ _ => rfl
  | openRoot tag _ hsegments =>
      rw [Terminal.onTags, openTags_eq_cons rfl rfl, openTags, hsegments]
  | openPending tag hsegments hnode =>
      rw [Terminal.onTags, openTags_eq_cons rfl rfl, openTags_of_pending hsegments hnode]
  | closeRoot hsegments hnode =>
      rw [Terminal.onTags, openTags_eq_cons hsegments hnode]
      rfl
  | close hsegments hnode _ hparent hbind =>
      rw [Terminal.onTags, openTags_eq_cons hsegments hnode, openTags_eq_cons rfl rfl,
        List.filterMap_cons, hparent, Node.tag_of_bind hbind]
      rfl
  | literal text hsegments hnode =>
      rw [openTags_eq_cons hsegments hnode, openTags_eq_cons rfl rfl]
      rfl
  | reference r hsegments hnode _ =>
      rw [openTags_eq_cons hsegments hnode, openTags_of_pending rfl rfl, List.filterMap_cons]
      rfl
  | null hsegments hnode _ hparent hbind =>
      rw [openTags_of_pending hsegments hnode, openTags_eq_cons rfl rfl, List.filterMap_cons,
        hparent, Node.tag_of_bind hbind]
      rfl
  | gap hsegments hnode _ hparent hbind =>
      rw [openTags_of_pending hsegments hnode, openTags_eq_cons rfl rfl, List.filterMap_cons,
        hparent, Node.tag_of_bind hbind]
      rfl
  | shift _ hsegments hnode _ hunbind =>
      rw [openTags_eq_cons hsegments hnode, openTags_of_pending rfl rfl, List.filterMap_cons,
        ← Node.tag_of_unbind hunbind]
      rfl

theorem openTags_of_bindAttribute {s s' : BuildState} {key : String} {value : Value} {undo : Undo}
    (h : s.bindAttribute key value = .ok (s', undo)) :
    ∃ tag tags, s.openTags = tag :: tags ∧
      s'.openTags = { tag with attributes := tag.attributes.insert key value } :: tags := by
  obtain ⟨segment, n, rest, hsegments, hnode, rfl, _⟩ := bindAttribute_eq_ok h
  exact ⟨n.tag, _, openTags_eq_cons hsegments hnode, rfl⟩

end BuildState

end Backtrack
