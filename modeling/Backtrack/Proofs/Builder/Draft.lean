import Backtrack.Proofs.Builder.Backfill
import Backtrack.Proofs.Builder.Finished

/-!
Drafts: a tree under construction as it reads so far.  A draft knows the open
nodes with what their children stand for, and nothing of names of segments, of
slots or of changes that could be taken back.  As long as nothing is shifted, a
builder adds a terminal exactly when its draft does, and its tree goes on reading
like the draft.
-/

namespace Backtrack

/-- Whether `r` can follow the references `rs` in a node: a name that comes up
again is that of an array each time. -/
def Reference.isFree (r : Reference) (rs : List Reference) : Bool :=
  rs.all fun earlier => earlier.name != r.name || (earlier.isArray && r.isArray)

namespace OutlineItem

def child : OutlineItem → Child
  | .literal text => .literal text
  | .bound r _ => .reference r
  | .unbound r => .reference r

def reference? (item : OutlineItem) : Option Reference := item.child.reference?

end OutlineItem

/-- The open nodes, from the root inward, each with what its children stand for. -/
inductive Trail where
  | root (tag : OpenTag) (items : List OutlineItem)
  | inner (outer : Trail) (r : Reference) (tag : OpenTag) (items : List OutlineItem)

namespace Trail

def tag : Trail → OpenTag
  | .root tag _ => tag
  | .inner _ _ tag _ => tag

def items : Trail → List OutlineItem
  | .root _ items => items
  | .inner _ _ _ items => items

def reference? : Trail → Option Reference
  | .root _ _ => none
  | .inner _ r _ _ => some r

def add (item : OutlineItem) : Trail → Trail
  | .root tag items => .root tag (items ++ [item])
  | .inner outer r tag items => .inner outer r tag (items ++ [item])

def references (trail : Trail) : List Reference := trail.items.filterMap OutlineItem.reference?

end Trail

inductive Draft where
  | empty
  /-- In an open node. -/
  | within (trail : Trail)
  /-- A reference of the innermost node waits for its value. -/
  | waiting (trail : Trail) (r : Reference)
  | closed (root : Outline)

namespace Draft

/-- Add a terminal.  There are no doctypes and no shifts in a draft. -/
def add : Draft → Terminal → Option Draft
  | .empty, .openNode tag => some (.within (.root tag []))
  | .within trail, .literal text => some (.within (trail.add (.literal text)))
  | .within trail, .reference r => if r.isFree trail.references then some (.waiting trail r) else none
  | .within (.root tag items), .close => some (.closed (.node tag items))
  | .within (.inner outer r tag items), .close =>
      some (.within (outer.add (.bound r (.node tag items))))
  | .waiting trail r, .openNode tag => some (.within (.inner trail r tag []))
  | .waiting trail r, .null => some (.within (trail.add (.bound r .null)))
  | .waiting trail r, .gap => some (.within (trail.add (.bound r .gap)))
  | _, _ => none

def addAll (d : Draft) (ts : List Terminal) : Option Draft := ts.foldlM add d

def root? : Draft → Option Outline
  | .closed root => some root
  | _ => none

end Draft

/-! ## What the path shows -/

def Segment.shown (segment : Segment) : Option Reference × Option Outline :=
  (segment.reference, segment.node.map Node.outline)

namespace Trail

/-- The open nodes as segments, innermost first.  The innermost has `next` after
its items. -/
def shown (next : List OutlineItem) : Trail → List (Option Reference × Option Outline)
  | .root tag items => [(none, some (.node tag (items ++ next)))]
  | .inner outer r tag items => (some r, some (.node tag (items ++ next))) :: outer.shown [.unbound r]

def around : Trail → List (Option Reference × Option Outline)
  | .root _ _ => []
  | .inner outer r _ _ => outer.shown [.unbound r]

theorem shown_eq_cons (trail : Trail) (next : List OutlineItem) :
    trail.shown next =
      (trail.reference?, some (.node trail.tag (trail.items ++ next))) :: trail.around := by
  cases trail <;> rfl

theorem shown_add (trail : Trail) (item : OutlineItem) (next : List OutlineItem) :
    (trail.add item).shown next = trail.shown (item :: next) := by
  cases trail <;> simp [add, shown]

end Trail

def Draft.shown : Draft → List (Option Reference × Option Outline)
  | .empty => []
  | .within trail => trail.shown []
  | .waiting trail r => (some r, none) :: trail.shown [.unbound r]
  | .closed _ => []

/-- The tree under construction reads like the draft. -/
structure BuildState.Follows (s : BuildState) (d : Draft) : Prop where
  shaped : s.Shaped
  held : s.held = none
  path : s.segments.map Segment.shown = d.shown
  root : s.root.map Node.outline = d.root?

/-! ## One child more -/

theorem Child.map_child_pair (children : List Child) (values : List Outline) :
    (pair children values).map OutlineItem.child = children := by
  induction children generalizing values with
  | nil => rfl
  | cons child rest ih =>
      cases child with
      | literal text => rw [pair, List.map_cons, ih, OutlineItem.child]
      | reference r =>
          cases values with
          | nil => rw [pair, List.map_cons, ih, OutlineItem.child]
          | cons value values => rw [pair, List.map_cons, ih, OutlineItem.child]

theorem Child.pair_concat {children : List Child} {values : List Outline} (child : Child)
    (more : List Outline) (h : (children.filterMap reference?).length = values.length) :
    pair (children ++ [child]) (values ++ more) = pair children values ++ pair [child] more := by
  rw [pair_append, h, List.take_left, List.drop_left]

namespace Node

theorem Filled.outline_addLiteral {n : Node} {bound : List (Reference × Property)}
    {tag : OpenTag} {items : List OutlineItem} (h : n.Filled bound)
    (houtline : n.outline = .node tag items) (text : String) :
    (n.addChild (.literal text)).outline = .node tag (items ++ [.literal text]) := by
  rw [h.outline_eq, Outline.node.injEq] at houtline
  obtain ⟨rfl, rfl⟩ := houtline
  have hpair := Child.pair_concat (.literal text) [] h.length_references
  rw [List.append_nil] at hpair
  rw [(h.addLiteral text).outline_eq, addChild, hpair]
  rfl

theorem Filled.outline_addReference {n : Node} {r : Reference}
    {bound : List (Reference × Property)} {tag : OpenTag} {items : List OutlineItem}
    (h : n.Filled bound) (hfree : n.checkBindable r = .ok ())
    (houtline : n.outline = .node tag items) :
    (n.addChild (.reference r)).outline = .node tag (items ++ [.unbound r]) := by
  rw [h.outline_eq, Outline.node.injEq] at houtline
  obtain ⟨rfl, rfl⟩ := houtline
  have hpair := Child.pair_concat (.reference r) [] h.length_references
  rw [List.append_nil] at hpair
  rw [(h.addReference hfree).outline_eq, addChild, hpair]
  rfl

theorem Awaiting.outline_of_filled {n m : Node} {r : Reference} {value : Property}
    {bound : List (Reference × Property)} {tag : OpenTag} {items : List OutlineItem}
    (h : m.Awaiting r bound) (hfilled : n.Filled ((r, value) :: bound)) (htag : n.tag = m.tag)
    (hchildren : n.children = m.children)
    (houtline : m.outline = .node tag (items ++ [.unbound r])) :
    n.outline = .node tag (items ++ [.bound r value.outline]) := by
  rw [h.outline_eq, Outline.node.injEq] at houtline
  obtain ⟨rfl, hitems⟩ := houtline
  have hend : m.children = items.map OutlineItem.child ++ [.reference r] := by
    have hmap := congrArg (List.map OutlineItem.child) hitems
    rw [Child.map_child_pair, List.map_append] at hmap
    exact hmap
  have hlength : ((items.map OutlineItem.child).filterMap Child.reference?).length =
      (bound.reverse.map (·.2.outline)).length := by
    have hreferences := congrArg List.length h.references
    rw [Node.references, hend, List.filterMap_append] at hreferences
    simpa [Child.reference?] using hreferences
  have hbefore : Child.pair (items.map OutlineItem.child) (bound.reverse.map (·.2.outline)) =
      items := by
    have hpair := Child.pair_concat (.reference r) [] hlength
    rw [List.append_nil, ← hend, hitems] at hpair
    exact (List.append_inj_left' hpair rfl).symm
  rw [hfilled.outline_eq, htag, hchildren, hend, List.reverse_cons, List.map_append,
    Child.pair_concat _ _ hlength, hbefore]
  rfl

/-! ## Free slots -/

theorem isFree_iff {r : Reference} {rs : List Reference} :
    r.isFree rs = true ↔
      ∀ earlier ∈ rs, earlier.name = r.name → earlier.isArray = true ∧ r.isArray = true := by
  rw [Reference.isFree, List.all_eq_true]
  refine forall_congr' fun earlier => forall_congr' fun _ => ?_
  by_cases hname : earlier.name = r.name <;> simp [hname]

theorem checkBindable_eq_ok_iff {n : Node} {r : Reference} :
    n.checkBindable r = .ok () ↔
      n.properties.lookup r.name = none ∨
        r.isArray = true ∧ ∃ items, n.properties.lookup r.name = some (.list items) := by
  unfold checkBindable property?
  cases n.properties.lookup r.name with
  | none => simp
  | some value => cases value <;> simp

theorem Filled.checkBindable_iff {n : Node} {r : Reference} {bound : List (Reference × Property)}
    (h : n.Filled bound) : n.checkBindable r = .ok () ↔ r.isFree n.references = true := by
  have hmem : ∀ earlier, earlier ∈ n.references ↔ ∃ b ∈ bound, b.1 = earlier := by
    intro earlier
    rw [h.references, List.mem_reverse, List.mem_map]
  rw [isFree_iff, checkBindable_eq_ok_iff]
  constructor
  · intro hfree earlier hearlier hname
    obtain ⟨b, hb, rfl⟩ := (hmem earlier).mp hearlier
    by_cases harray : b.1.isArray = true
    · obtain ⟨items, hitems⟩ := h.binds.lookup_array b hb harray
      rw [hname] at hitems
      rcases hfree with hnone | ⟨hr, _⟩
      · rw [hnone] at hitems
        cases hitems
      · exact ⟨harray, hr⟩
    · -- A single slot that has its value is not free again.
      obtain ⟨hlookup, hlist⟩ := h.binds.lookup_single b hb (Bool.eq_false_iff.mpr harray)
      rw [hname] at hlookup
      rcases hfree with hnone | ⟨_, items, hitems⟩
      · rw [hnone] at hlookup
        cases hlookup
      · rw [hitems, Option.some.injEq] at hlookup
        rw [← hlookup] at hlist
        cases hlist
  · intro hfree
    cases hlookup : n.properties.lookup r.name with
    | none => exact Or.inl rfl
    | some value =>
        have hname : r.name ∈ (n.references.map (·.name)).eraseDups := by
          rw [← h.slotsFit.ordered, List.mem_map]
          exact ⟨(r.name, value), mem_of_lookup hlookup, rfl⟩
        rw [List.mem_eraseDups, List.mem_map] at hname
        obtain ⟨earlier, hearlier, hname⟩ := hname
        obtain ⟨b, hb, rfl⟩ := (hmem earlier).mp hearlier
        obtain ⟨harray, hr⟩ := hfree b.1 hearlier hname
        obtain ⟨items, hitems⟩ := h.binds.lookup_array b hb harray
        rw [hname, hlookup] at hitems
        exact Or.inr ⟨hr, items, hitems⟩

theorem references_eq_of_outline {n : Node} {bound : List (Reference × Property)} {tag : OpenTag}
    {items : List OutlineItem} (h : n.Filled bound) (houtline : n.outline = .node tag items) :
    n.references = items.filterMap OutlineItem.reference? := by
  rw [h.outline_eq, Outline.node.injEq] at houtline
  obtain ⟨rfl, rfl⟩ := houtline
  have hchildren := Child.map_child_pair n.children (bound.reverse.map (·.2.outline))
  rw [Node.references]
  nth_rewrite 1 [← hchildren]
  rw [List.filterMap_map]
  rfl

end Node

namespace BuildState

/-! ## The draft of a state -/

theorem follows_empty : Follows {} .empty := ⟨shaped_empty, rfl, rfl, rfl⟩

theorem Follows.of_open {s : BuildState} {d : Draft} {segment : Segment} {rest : List Segment}
    {n : Node} (h : s.Follows d) (hsegments : s.segments = segment :: rest)
    (hnode : segment.node = some n) :
    ∃ trail, d = .within trail ∧ segment.reference = trail.reference? ∧
      n.outline = .node trail.tag trail.items ∧ rest.map Segment.shown = trail.around := by
  have hpath := h.path
  rw [hsegments, List.map_cons, Segment.shown, hnode, Option.map_some] at hpath
  cases d with
  | empty => cases hpath
  | closed root => cases hpath
  | waiting trail r =>
      rw [Draft.shown, List.cons.injEq, Prod.mk.injEq] at hpath
      cases hpath.1.2
  | within trail =>
      rw [Draft.shown, trail.shown_eq_cons, List.append_nil, List.cons.injEq, Prod.mk.injEq,
        Option.some.injEq] at hpath
      exact ⟨trail, rfl, hpath.1.1, hpath.1.2, hpath.2⟩

theorem Follows.of_pending {s : BuildState} {d : Draft} {segment : Segment}
    {below : List Segment} (h : s.Follows d) (hsegments : s.segments = segment :: below)
    (hnode : segment.node = none) :
    ∃ trail r, d = .waiting trail r ∧ segment.reference = some r ∧
      below.map Segment.shown = trail.shown [.unbound r] := by
  have hpath := h.path
  rw [hsegments, List.map_cons, Segment.shown, hnode, Option.map_none] at hpath
  cases d with
  | empty => cases hpath
  | closed root => cases hpath
  | within trail =>
      rw [Draft.shown, trail.shown_eq_cons, List.cons.injEq, Prod.mk.injEq] at hpath
      cases hpath.1.2
  | waiting trail r =>
      rw [Draft.shown, List.cons.injEq, Prod.mk.injEq] at hpath
      exact ⟨trail, r, rfl, hpath.1.1, hpath.2⟩

/-- What is bound to the reference around the innermost segment takes the place of
the reference. -/
theorem Follows.shown_of_bind {s : BuildState} {segment parent : Segment} {rest : List Segment}
    {m m' : Node} {r : Reference} {value : Property} {how : Bound} {trail : Trail} {d : Draft}
    (h : s.Follows d) (hsegments : s.segments = segment :: parent :: rest)
    (hreference : segment.reference = some r) (hparent : parent.node = some m)
    (hvalue : value.Proper) (hbind : m.bind r value = .ok (m', how))
    (hshown : (parent :: rest).map Segment.shown = trail.shown [.unbound r]) :
    Segment.shown { parent with node := some m', lastBound := some r } ::
        rest.map Segment.shown = (trail.add (.bound r value.outline)).shown [] := by
  obtain ⟨_, _, n, bound, hcons, hnode, hawaiting, _⟩ := h.shaped.parent hsegments hreference
  cases hcons
  rw [hparent, Option.some.injEq] at hnode
  subst hnode
  obtain ⟨properties, how', hbind', hfilled⟩ := hawaiting.bind hvalue
  rw [hbind] at hbind'
  cases hbind'
  rw [List.map_cons, trail.shown_eq_cons, List.cons.injEq, Segment.shown, hparent,
    Option.map_some, Prod.mk.injEq, Option.some.injEq] at hshown
  obtain ⟨⟨href, houtline⟩, hrest⟩ := hshown
  rw [trail.shown_add, trail.shown_eq_cons, hrest]
  rw [Segment.shown, href, Option.map_some,
    hawaiting.outline_of_filled hfilled rfl rfl houtline]

/-- A change that is no shift and no doctype is one that the draft can make, and
the tree goes on reading like the draft. -/
theorem Follows.of_change {id : PathId} {s s' : BuildState} {t : Terminal} {undo : Undo}
    {d : Draft} (h : s.Follows d) (hchange : Change id s t s' undo) (hshift : t ≠ .shift)
    (hdoctype : ∀ tag, t ≠ .doctype tag) :
    ∃ d', d.add t = some d' ∧ Follows { s' with last := some t } d' := by
  have hshaped := h.shaped.of_change hchange
  cases hchange with
  | doctype tag => exact absurd rfl (hdoctype tag)
  | shift => exact absurd rfl hshift
  | openRoot tag hroot hsegments =>
      have hpath := h.path
      have hroot? := h.root
      rw [hsegments] at hpath
      rw [hroot] at hroot?
      cases d with
      | within trail =>
          rw [Draft.shown, trail.shown_eq_cons] at hpath
          cases hpath
      | waiting trail r => cases hpath
      | closed root => cases hroot?
      | empty =>
          refine ⟨_, rfl, hshaped, h.held, ?_, ?_⟩
          · rfl
          · simp [hroot, Draft.root?]
  | openPending tag hsegments hnode =>
      obtain ⟨trail, r, rfl, hreference, hbelow⟩ := h.of_pending hsegments hnode
      refine ⟨_, rfl, hshaped, h.held, ?_, h.root⟩
      rw [Draft.shown, Trail.shown, List.map_cons, hbelow, Segment.shown, hreference]
      rfl
  | closeRoot hsegments hnode =>
      obtain ⟨trail, rfl, hreference, houtline, haround⟩ := h.of_open hsegments hnode
      cases trail with
      -- Around the root there is nothing.
      | inner outer r tag items =>
          rw [Trail.around, outer.shown_eq_cons] at haround
          cases haround
      | root tag items =>
          refine ⟨_, rfl, hshaped, h.held, rfl, ?_⟩
          rw [Draft.root?, Option.map_some, houtline]
          rfl
  | @close segment parent rest n m m' r how hsegments hnode hreference hparent hbind =>
      obtain ⟨bound, hfilled, _⟩ := h.shaped.filled hsegments hnode
      obtain ⟨trail, rfl, href, houtline, haround⟩ := h.of_open hsegments hnode
      cases trail with
      | root tag items => cases haround
      | inner outer r' tag items =>
          rw [hreference] at href
          cases href
          have hshown := h.shown_of_bind hsegments hreference hparent hfilled.proper_ofNode hbind
            haround
          have hvalue : (Property.ofNode n).outline = .node tag items := houtline
          rw [hvalue] at hshown
          exact ⟨_, rfl, hshaped, h.held, hshown, h.root⟩
  | literal text hsegments hnode =>
      obtain ⟨bound, hfilled, _⟩ := h.shaped.filled hsegments hnode
      obtain ⟨trail, rfl, hreference, houtline, haround⟩ := h.of_open hsegments hnode
      refine ⟨_, rfl, hshaped, h.held, ?_, h.root⟩
      rw [Draft.shown, trail.shown_add, trail.shown_eq_cons, List.map_cons, haround,
        Segment.shown, hreference, Option.map_some, hfilled.outline_addLiteral houtline]
  | reference r hsegments hnode hfree =>
      obtain ⟨bound, hfilled, _⟩ := h.shaped.filled hsegments hnode
      obtain ⟨trail, rfl, hreference, houtline, haround⟩ := h.of_open hsegments hnode
      have hisFree : r.isFree trail.references = true := by
        rw [Trail.references, ← Node.references_eq_of_outline hfilled houtline]
        exact hfilled.checkBindable_iff.mp hfree
      refine ⟨.waiting trail r, by rw [Draft.add, if_pos hisFree], hshaped, h.held, ?_, h.root⟩
      rw [Draft.shown, trail.shown_eq_cons, List.map_cons, List.map_cons, haround,
        Segment.shown, Segment.shown, hreference, Option.map_some,
        hfilled.outline_addReference hfree houtline]
      rfl
  | null hsegments hnode hreference hparent hbind =>
      obtain ⟨trail, r', rfl, href, hbelow⟩ := h.of_pending hsegments hnode
      rw [hreference] at href
      cases href
      have hshown := h.shown_of_bind hsegments hreference hparent .null hbind hbelow
      exact ⟨_, rfl, hshaped, h.held, hshown, h.root⟩
  | gap hsegments hnode hreference hparent hbind =>
      obtain ⟨trail, r', rfl, href, hbelow⟩ := h.of_pending hsegments hnode
      rw [hreference] at href
      cases href
      rw [h.held] at hbind
      have hshown := h.shown_of_bind hsegments hreference hparent .gap hbind hbelow
      exact ⟨_, rfl, hshaped, rfl, hshown, h.root⟩

/-! ## What the draft can add -/

theorem Follows.exists_open {s : BuildState} {trail : Trail} (h : s.Follows (.within trail)) :
    ∃ segment rest n, s.segments = segment :: rest ∧ segment.node = some n ∧
      n.outline = .node trail.tag trail.items := by
  have hpath := h.path
  rw [Draft.shown, trail.shown_eq_cons, List.append_nil] at hpath
  obtain ⟨segment, rest, hsegments, hshown, _⟩ := List.map_eq_cons_iff.mp hpath
  obtain ⟨n, hnode, houtline⟩ := Option.map_eq_some_iff.mp (Prod.mk.inj hshown).2
  exact ⟨segment, rest, n, hsegments, hnode, houtline⟩

theorem Follows.exists_pending {s : BuildState} {trail : Trail} {r : Reference}
    (h : s.Follows (.waiting trail r)) :
    ∃ segment below, s.segments = segment :: below ∧ segment.node = none ∧
      segment.reference = some r := by
  obtain ⟨segment, below, hsegments, hshown, _⟩ := List.map_eq_cons_iff.mp h.path
  obtain ⟨hreference, hnode⟩ := Prod.mk.inj hshown
  exact ⟨segment, below, hsegments, Option.map_eq_none_iff.mp hnode, hreference⟩

theorem Follows.segments_eq_nil {s : BuildState} (h : s.Follows .empty) : s.segments = [] :=
  List.map_eq_nil_iff.mp h.path

theorem Follows.exists_bindPending {s : BuildState} {trail : Trail} {r : Reference}
    {value : Property} (h : s.Follows (.waiting trail r)) (hvalue : value.Proper)
    (tookHeld : Bool) (action : String) :
    ∃ s' undo, s.bindPending value tookHeld action = (s', .ok undo) := by
  obtain ⟨segment, below, hsegments, hnode, hreference⟩ := h.exists_pending
  obtain ⟨⟨s', how, previous⟩, hbind⟩ := h.shaped.exists_bindOpen hsegments hreference hvalue
    (if tookHeld then none else s.held) action
  have hpending : s.pendingTop? = some (segment, below) :=
    pendingTop?_eq_some_iff.mpr ⟨hsegments, hnode⟩
  exact ⟨s', .bind segment.id r how previous tookHeld, by
    simp [bindPending, hpending, hreference, hbind, attempt, Bind.bind, Except.bind, pure,
      Except.pure]⟩

theorem Follows.exists_close {s : BuildState} {trail : Trail} (h : s.Follows (.within trail)) :
    ∃ s' undo, s.applyClose = (s', .ok undo) := by
  obtain ⟨segment, rest, n, hsegments, hnode, _⟩ := h.exists_open
  have htop : s.openTop? = some (segment, n, rest) := openTop?_eq_some_iff.mpr ⟨hsegments, hnode⟩
  cases rest with
  | nil => exact ⟨_, _, by rw [applyClose, htop]⟩
  | cons parent rest =>
      obtain ⟨bound, hfilled, _⟩ := h.shaped.filled hsegments hnode
      have haround := h.shaped.around _ _ hsegments
      cases hreference : segment.reference with
      | none =>
          rw [hreference] at haround
          exact absurd haround (by simp [Around])
      | some r =>
          obtain ⟨⟨s', how, previous⟩, hbind⟩ :=
            h.shaped.exists_bindOpen hsegments hreference hfilled.proper_ofNode s.held "close"
          exact ⟨s', .close segment.id r segment.lastBound how previous, by
            simp [applyClose, htop, hreference, hbind, attempt, Bind.bind, Except.bind, pure,
              Except.pure]⟩

/-- What the draft can add can be added to the tree. -/
theorem Follows.exists_apply {s : BuildState} {d d' : Draft} {t : Terminal} (h : s.Follows d)
    (hadd : d.add t = some d') (id : PathId) : ∃ s' undo, s.apply id t = (s', .ok undo) := by
  unfold Draft.add at hadd
  split at hadd
  · next tag =>
      have hroot : s.root = none := Option.map_eq_none_iff.mp h.root
      exact ⟨_, _, by rw [apply, applyOpen, h.segments_eq_nil, hroot]; rfl⟩
  · next trail text =>
      obtain ⟨segment, rest, n, hsegments, hnode, _⟩ := h.exists_open
      have hmodify : s.modifyNode "literal" (·.addChild (.literal text)) =
          .ok { s with segments :=
            { segment with node := some (n.addChild (.literal text)) } :: rest } :=
        modifyNode_eq_ok_iff.mpr ⟨segment, n, rest, hsegments, hnode, rfl⟩
      exact ⟨_, _, by rw [apply, applyLiteral, hmodify]; rfl⟩
  · next trail r =>
      obtain ⟨segment, rest, n, hsegments, hnode, houtline⟩ := h.exists_open
      obtain ⟨bound, hfilled, _⟩ := h.shaped.filled hsegments hnode
      split at hadd
      · next hisFree =>
          have hfree : n.checkBindable r = .ok () := by
            rw [hfilled.checkBindable_iff, Node.references_eq_of_outline hfilled houtline]
            exact hisFree
          exact ⟨_, _, apply_reference id hsegments hnode hfree⟩
      · cases hadd
  · exact h.exists_close
  · exact h.exists_close
  · next trail r tag =>
      obtain ⟨segment, below, hsegments, hnode, _⟩ := h.exists_pending
      refine ⟨{ s with segments := { segment with node := some { tag } } :: below },
        .openPending, ?_⟩
      simp [apply, applyOpen, hsegments, hnode, attempt]
  · exact h.exists_bindPending .null false "null"
  · obtain ⟨s', undo, hgap⟩ := h.exists_bindPending .gap false "gap"
    exact ⟨s', undo, by rw [apply, applyGap, h.held]; exact hgap⟩
  · cases hadd

end BuildState

namespace Builder

theorem follows_start : start.state.Follows .empty := BuildState.follows_empty

/-- A builder adds what its draft can add. -/
theorem advance_of_add {b : Builder} {d d' : Draft} {t : Terminal} (h : b.state.Follows d)
    (hadd : d.add t = some d') :
    (b.advance t).2 = .ok (.tag t) ∧ (b.advance t).1.state.Follows d' := by
  obtain ⟨s, undo, happly⟩ := h.exists_apply hadd ⟨b.nextId⟩
  obtain ⟨hanswer, hstate⟩ := advance_eq_of_apply happly
  have hshift : t ≠ .shift := by
    rintro rfl
    cases d <;> cases hadd
  have hdoctype : ∀ tag, t ≠ .doctype tag := by
    rintro tag rfl
    cases d <;> cases hadd
  obtain ⟨d'', hadd', hfollows⟩ :=
    h.of_change (BuildState.change_of_apply happly) hshift hdoctype
  rw [hadd, Option.some.injEq] at hadd'
  rw [hadd', hstate]
  exact ⟨hanswer, hfollows⟩

/-- What a builder adds its draft can add. -/
theorem add_of_advance {b b' : Builder} {d : Draft} {t : Terminal} {answer : Emitted}
    (h : b.state.Follows d) (hadvance : b.advance t = (b', .ok answer)) (hshift : t ≠ .shift)
    (hdoctype : ∀ tag, t ≠ .doctype tag) :
    ∃ d', d.add t = some d' ∧ b'.state.Follows d' := by
  obtain ⟨s, undo, hchange, hstate⟩ := state_of_advance_eq_ok hadvance
  rw [hstate]
  exact h.of_change hchange hshift hdoctype

end Builder

end Backtrack
