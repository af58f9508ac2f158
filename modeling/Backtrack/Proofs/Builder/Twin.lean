import Backtrack.Proofs.Builder.Backfill
import Backtrack.Proofs.Builder.Bare
import Backtrack.Proofs.Builder.Paired
import Backtrack.Proofs.Region

/-!
Builders that differ in attributes.  Twins have the same tree but for the attributes, and
the same open nodes have begun a span; of the root that does not matter, as closing it ends
no span.  Terminals keep twins, and so do frames, as what they would bring back are twins
too.  Setting an attribute in one of them keeps twins as long as it does not decide on a
span.
-/

namespace Backtrack

namespace OpenTag

variable {tag tag' : OpenTag} {tags tags' : List OpenTag}

theorem nodeType_eq_of_bare (h : tag.bare = tag'.bare) : tag.nodeType = tag'.nodeType :=
  congrArg (·.nodeType) h

theorem beginsSpan_withAttribute (tag : OpenTag) (key : String) (value : Value) :
    (tag.withAttribute key value).beginsSpan =
      if key = "span" then tag.nodeType.isSome && value.text?.isSome else tag.beginsSpan := by
  rw [beginsSpan, beginsSpan, withAttribute]
  split
  · next hkey => rw [hkey, Attributes.text?_insert_self]
  · next hkey => rw [Attributes.text?_insert_of_ne _ _ (Ne.symm hkey)]

/-- The tags of open nodes, innermost first, that differ in attributes only, and but for the
root not in the spans that they begin. -/
inductive SpansAlike : List OpenTag → List OpenTag → Prop
  | nil : SpansAlike [] []
  | root {tag tag' : OpenTag} : tag.bare = tag'.bare → SpansAlike [tag] [tag']
  | cons {tag tag' : OpenTag} {tags tags' : List OpenTag} : tag.bare = tag'.bare →
      tag.beginsSpan = tag'.beginsSpan → SpansAlike tags tags' →
      SpansAlike (tag :: tags) (tag' :: tags')

namespace SpansAlike

theorem onTags (h : SpansAlike tags tags') (t : Terminal) :
    SpansAlike (t.onTags tags) (t.onTags tags') := by
  cases t with
  | openNode tag => exact .cons rfl rfl h
  | close =>
      cases h with
      | nil => exact .nil
      | root _ => exact .nil
      | cons _ _ hrest => exact hrest
  | _ => exact h

theorem withAttribute (h : SpansAlike (tag :: tags) (tag' :: tags')) (key : String)
    (value : Value) :
    SpansAlike (tag.withAttribute key value :: tags) (tag'.withAttribute key value :: tags') := by
  cases h with
  | root hbare => exact .root hbare
  | cons hbare hspan hrest =>
      refine .cons hbare ?_ hrest
      rw [beginsSpan_withAttribute, beginsSpan_withAttribute, nodeType_eq_of_bare hbare, hspan]

theorem withAttribute_right (h : SpansAlike tags (tag' :: tags')) {key : String} {value : Value}
    (hkeeps : tags' ≠ [] → (tag'.withAttribute key value).beginsSpan = tag'.beginsSpan) :
    SpansAlike tags (tag'.withAttribute key value :: tags') := by
  cases h with
  | root hbare => exact .root hbare
  | @cons tag _ rest _ hbare hspan hrest =>
      cases tags' with
      | nil =>
          -- The root alone: its span is not compared any more.
          cases hrest
          exact .root hbare
      | cons next tags' => exact .cons hbare (hspan.trans (hkeeps (by simp)).symm) hrest

theorem beginsSpan_eq (h : SpansAlike (tag :: tags) (tag' :: tags')) (hinner : tags ≠ []) :
    tag.beginsSpan = tag'.beginsSpan := by
  cases h with
  | root _ => exact absurd rfl hinner
  | cons _ hspan _ => exact hspan

end SpansAlike

end OpenTag

namespace BuildState

variable {s t : BuildState}

/-- The same tree but for the attributes, with the same spans to end. -/
structure Twin (s t : BuildState) : Prop where
  bare : s.bare = t.bare
  spans : OpenTag.SpansAlike s.openTags t.openTags

theorem Twin.takesId_eq (h : s.Twin t) (x : Terminal) : s.takesId x = t.takesId x := by
  rw [← takesId_bare, h.bare, takesId_bare]

theorem Twin.setLast (h : s.Twin t) (x : Terminal) : (s.setLast x).1.Twin (t.setLast x).1 := by
  refine ⟨?_, h.spans⟩
  show { s.bare with last := some x } = { t.bare with last := some x }
  rw [h.bare]

theorem Twin.write (h : s.Twin t) (text : String) : (s.write text).1.Twin (t.write text).1 := by
  refine ⟨?_, h.spans⟩
  show { s.bare with written := s.bare.written ++ text } =
    { t.bare with written := t.bare.written ++ text }
  rw [h.bare]

/-- A terminal does the same to both, or fails for the same reason. -/
theorem Twin.apply_eq (h : s.Twin t) (id : PathId) (x : Terminal) :
    (s.apply id x).2 = (t.apply id x).2 ∧ (s.apply id x).1.bare = (t.apply id x).1.bare := by
  have hbare := congrArg (·.apply id x.bare) h.bare
  simp only [apply_bare, Prod.mk.injEq] at hbare
  exact hbare.symm

theorem Twin.apply (h : s.Twin t) {id : PathId} {x : Terminal} {s' : BuildState} {undo : Undo}
    (happly : s.apply id x = (s', .ok undo)) :
    ∃ t', t.apply id x = (t', .ok undo) ∧ s'.Twin t' := by
  obtain ⟨hresult, hbare⟩ := h.apply_eq id x
  rcases happly' : t.apply id x with ⟨t', result⟩
  rw [happly, happly'] at hresult hbare
  cases hresult
  refine ⟨t', rfl, hbare, ?_⟩
  rw [(change_of_apply happly).openTags_eq, (change_of_apply happly').openTags_eq]
  exact h.spans.onTags x

theorem bindAttribute_of_openTop? {top : Segment × Node × List Segment}
    (h : s.openTop? = some top) (key : String) (value : Value) :
    ∃ change, s.bindAttribute key value = .ok change := by
  unfold bindAttribute modifyNode requireOpen
  rw [h]
  exact ⟨_, rfl⟩

theorem bindAttribute_of_openTop?_none (h : s.openTop? = none) (key : String) (value : Value) :
    s.bindAttribute key value = .error (.noOpenNode "bindAttribute") := by
  unfold bindAttribute requireOpen
  rw [h]
  rfl

theorem Twin.bindAttribute (h : s.Twin t) (key : String) (value : Value) :
    (∃ change change', s.bindAttribute key value = .ok change ∧
        t.bindAttribute key value = .ok change' ∧ change.1.Twin change'.1) ∨
      ∃ error, s.bindAttribute key value = .error error ∧
        t.bindAttribute key value = .error error := by
  have hopen := congrArg openTop? h.bare
  rw [openTop?_bare, openTop?_bare] at hopen
  cases hs : s.openTop? with
  | none =>
      rw [hs, Option.map_none, eq_comm, Option.map_eq_none_iff] at hopen
      exact Or.inr ⟨_, bindAttribute_of_openTop?_none hs key value,
        bindAttribute_of_openTop?_none hopen key value⟩
  | some top =>
      rw [hs, Option.map_some, eq_comm, Option.map_eq_some_iff] at hopen
      obtain ⟨top', ht, _⟩ := hopen
      obtain ⟨⟨s', undo⟩, hbind⟩ := bindAttribute_of_openTop? hs key value
      obtain ⟨⟨t', undo'⟩, hbind'⟩ := bindAttribute_of_openTop? ht key value
      obtain ⟨tag, tags, htags, htags₁⟩ := openTags_of_bindAttribute hbind
      obtain ⟨tag', tags', htags', htags₁'⟩ := openTags_of_bindAttribute hbind'
      refine Or.inl ⟨_, _, hbind, hbind', ?_, ?_⟩
      · show s'.bare = t'.bare
        rw [bare_of_bindAttribute hbind, bare_of_bindAttribute hbind', h.bare]
      · have hspans := h.spans
        rw [htags, htags'] at hspans
        show OpenTag.SpansAlike s'.openTags t'.openTags
        rw [htags₁, htags₁']
        exact hspans.withAttribute key value

theorem coupled_twin : Coupled Twin where
  takesId h x := h.takesId_eq x
  apply {s t} h id x := by
    rcases happly : s.apply id x with ⟨s', error | undo⟩
    · have hresult := (h.apply_eq id x).1
      rw [happly] at hresult
      exact Or.inr ⟨error, rfl, hresult.symm⟩
    · obtain ⟨t', happly', htwin⟩ := h.apply happly
      exact Or.inl ⟨s', t', undo, rfl, happly', htwin.setLast x⟩
  write h text := h.write text
  bindAttribute h key value := h.bindAttribute key value

theorem Twin.beginsSpan_eq (h : s.Twin t) {segment segment' parent : Segment}
    {rest rest' : List Segment} {n n' m : Node} (hs : s.segments = segment :: parent :: rest)
    (hn : segment.node = some n) (hm : parent.node = some m)
    (ht : t.segments = segment' :: rest') (hn' : segment'.node = some n') :
    n.tag.beginsSpan = n'.tag.beginsSpan := by
  have hspans := h.spans
  rw [openTags_eq_cons hs hn, openTags_eq_cons ht hn'] at hspans
  refine hspans.beginsSpan_eq ?_
  rw [List.filterMap_cons, hm]
  simp

theorem Twin.annotated (h : s.Twin t) {key : String} {value : Value} {t' : BuildState}
    {undo : Undo} (hbind : t.bindAttribute key value = .ok (t', undo))
    (hkeeps : ∀ tag tags, t.openTags = tag :: tags → tags ≠ [] →
      (tag.withAttribute key value).beginsSpan = tag.beginsSpan) : s.Twin t' := by
  obtain ⟨tag, tags, htags, htags'⟩ := openTags_of_bindAttribute hbind
  refine ⟨h.bare.trans (bare_of_bindAttribute hbind).symm, ?_⟩
  rw [htags']
  exact (htags ▸ h.spans).withAttribute_right (hkeeps tag tags htags)

end BuildState

/-! ## What is seen of a tree -/

namespace BuildState.Twin

variable {b c : Builder}

theorem path_eq (h : b.state.Twin c.state) : b.path = c.path := by
  have hbare : b.bare.state = c.bare.state := h.bare
  rw [← Builder.path_bare b, ← Builder.path_bare c, Builder.path, Builder.path, hbare]

theorem last?_eq (h : b.state.Twin c.state) : b.last? = c.last? := congrArg (·.last) h.bare

theorem node?_eq (h : b.state.Twin c.state) : b.node?.map Node.bare = c.node?.map Node.bare := by
  have hbare : b.bare.state = c.bare.state := h.bare
  rw [← Builder.node?_bare, ← Builder.node?_bare, Builder.node?, Builder.node?, hbare]

theorem finish_eq (h : b.state.Twin c.state) :
    b.finish.map Document.bare = c.finish.map Document.bare := by
  have hbare : b.bare.state = c.bare.state := h.bare
  rw [← Builder.finish_bare, ← Builder.finish_bare, Builder.finish, Builder.finish, hbare]

theorem endsSpan_eq (h : b.state.Twin c.state) {b' : Builder} {answer : Emitted}
    (hclose : b.advance .close = (b', .ok answer)) (hinner : b'.path.isEmpty = false) :
    (b.node?.any fun n => n.tag.beginsSpan) = c.node?.any fun n => n.tag.beginsSpan := by
  obtain ⟨s, undo, hchange, hstate⟩ := Builder.state_of_advance_eq_ok hclose
  cases hchange with
  | closeRoot _ _ => simp [Builder.path, Path.isEmpty, hstate] at hinner
  | @close segment parent rest n m _ _ _ hsegments hnode _ hparent _ =>
      have hopen : b.node? = some n := by
        rw [Builder.node?, hsegments]
        exact hnode
      have hsame := h.node?_eq
      rw [hopen, Option.map_some, eq_comm, Option.map_eq_some_iff] at hsame
      obtain ⟨n', hopen', _⟩ := hsame
      obtain ⟨segment', rest', hsegments', hnode'⟩ := Builder.openTop?_of_node? hopen'
      rw [hopen, hopen', Option.any_some, Option.any_some]
      exact h.beginsSpan_eq hsegments hnode hparent hsegments' hnode'

end BuildState.Twin

namespace Builder

variable {b c : Builder}

/-- Twins whose saved states are twins. -/
abbrev Twin (b c : Builder) : Prop := b.Paired BuildState.Twin c

/-! ## Setting an attribute in one of them -/

/-- Setting an attribute of the open node says nothing new about its span, unless the node
is the root. -/
def KeepsSpan (b : Builder) (key : String) (value : Value) : Prop :=
  ∀ n, b.node? = some n → b.path.depth ≠ 0 →
    (n.tag.withAttribute key value).beginsSpan = n.tag.beginsSpan

instance (b : Builder) (key : String) (value : Value) : Decidable (b.KeepsSpan key value) :=
  inferInstanceAs (Decidable (∀ n ∈ b.node?, b.path.depth ≠ 0 →
    (n.tag.withAttribute key value).beginsSpan = n.tag.beginsSpan))

theorem Twin.annotated (h : b.Twin c) {key : String} {value : Value} {c' : Builder}
    {answer : Emitted} (hbind : c.bindAttribute key value = (c', .ok answer))
    (hkeeps : c.KeepsSpan key value) : b.Twin c' := by
  obtain ⟨⟨s, undo⟩, hstate, rfl⟩ := bindAttribute_eq_ok hbind
  have hcommit : c.commit (s, undo) = (c.bindAttribute key value).1 := by rw [hbind]
  refine h.changed (by simp [h.nextId]) ?_ (fun _ hmirrors => hmirrors) fun _ hmirrors => ?_
  · rw [state_commit]
    refine h.state.annotated hstate fun tag tags htags hinner => ?_
    obtain ⟨segment, n, rest, hsegments, hnode, _⟩ := BuildState.bindAttribute_eq_ok hstate
    rw [BuildState.openTags_eq_cons hsegments hnode] at htags
    cases htags
    refine hkeeps n (by rw [node?, hsegments]; exact hnode) ?_
    rw [Path.depth, path, hsegments]
    cases rest with
    | nil => exact absurd rfl hinner
    | cons parent rest => simp
  · rw [hcommit]
    exact hmirrors.bindAttribute key value

end Builder

end Backtrack
