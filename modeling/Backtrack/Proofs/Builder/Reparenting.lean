import Backtrack.Proofs.Builder.Rebase
import Backtrack.Proofs.Builder.Snapshot

/-!
Wrapping a value that is bound already.  A shift takes the value bound last out of its
slot, a wrapper is opened there, and a gap binds the value inside of it.  The tree is the
same as if the wrapper had been opened before the value: nothing of the value depends on
the place where it was built, the emptied slot takes the wrapper as the free one does,
and nothing of the wrapper depends on what the slot went through.
-/

namespace Backtrack

namespace BuildState

/-- The tree with a node open in the slot that waited, and a reference of it that waits.
`id` names the reference. -/
def openedIn (s : BuildState) (segment : Segment) (low : List Segment) (id : PathId)
    (tag : OpenTag) (l : Reference) : BuildState :=
  { s with
    segments :=
      { id, reference := some l } ::
        { segment with node := some (Node.addChild { tag } (.reference l)) } :: low
    last := some (.reference l) }

end BuildState

namespace Node

theorem exists_bind_ofTag (tag : OpenTag) (l : Reference) {value : Property}
    (hvalue : value.Proper) :
    ∃ m how, Node.bind (addChild { tag } (.reference l)) l value = .ok (m, how) := by
  obtain ⟨properties, how, hbind, _⟩ :=
    ((filled_ofTag tag).addReference (r := l) rfl).bind hvalue
  exact ⟨_, how, hbind⟩

end Node

namespace Builder

open BuildState (Rebased Change Edited Atop openedIn)

variable {b c : Builder}

theorem exists_build_opened {segment : Segment} {low : List Segment}
    (hsegments : b.state.segments = segment :: low) (hnode : segment.node = none)
    (tag : OpenTag) (l : Reference) :
    ∃ c id, b.build [.advance (.openNode tag), .advance (.reference l)] = some c ∧
      c.state = b.state.openedIn segment low id tag l := by
  obtain ⟨b₁, answer, hopen, hstate⟩ :=
    exists_edit (Edited.advance (Change.openPending tag hsegments hnode))
  have hsegments₁ : b₁.state.segments = { segment with node := some { tag } } :: low := by
    rw [hstate]
  obtain ⟨c, answer', hreference, hstate'⟩ :=
    exists_edit (b := b₁) (.advance (Change.reference l hsegments₁ rfl rfl))
  refine ⟨c, ⟨b₁.nextId⟩, ?_, ?_⟩
  · exact build_cons_iff.mpr ⟨b₁, answer, hopen, build_cons_iff.mpr ⟨c, answer', hreference, rfl⟩⟩
  · rw [hstate', hstate]
    rfl

theorem build_singleton_iff {edit : Edit} {b b' : Builder} :
    b.build [edit] = some b' ↔ ∃ answer, b.edit edit = (b', .ok answer) := by
  rw [build_cons_iff]
  constructor
  · rintro ⟨b₁, answer, hedit, hnil⟩
    cases hnil
    exact ⟨answer, hedit⟩
  · rintro ⟨answer, hedit⟩
    exact ⟨b', answer, hedit, rfl⟩

theorem of_build_reference {r : Reference} {slot : Builder} (hshaped : b.state.Shaped)
    (h : b.build [.advance (.reference r)] = some slot) :
    ∃ base rest n bound id, n.Awaiting r bound ∧ base.node = some n ∧
      slot.state.segments = { id, reference := some r } :: base :: rest := by
  obtain ⟨answer, hedit⟩ := build_singleton_iff.mp h
  have hedited := edited_of_edit hedit
  generalize slot.state = s at hedited
  cases hedited with
  | advance hchange =>
      cases hchange with
      | @reference segment rest n _ hsegments hnode hfree =>
          obtain ⟨bound, hfilled, _⟩ := hshaped.filled hsegments hnode
          exact ⟨{ segment with node := some (n.addChild (.reference r)) }, rest, _, bound, _,
            hfilled.addReference hfree, rfl, rfl⟩

/-- The value bound last ends up in a wrapper, and its slot waits for the wrapper. -/
theorem exists_build_wrapped {parent : Segment} {rest : List Segment} {m : Node} {r : Reference}
    {value : Property} {bound : List (Reference × Property)}
    (hsegments : b.state.segments = parent :: rest) (hnode : parent.node = some m)
    (hlast : parent.lastBound = some r) (hheld : b.state.held = none)
    (hfilled : m.Filled ((r, value) :: bound)) (tag : OpenTag) (l : Reference) {wrapper : Node}
    {how : Bound} (hbind : Node.bind (Node.addChild { tag } (.reference l)) l value =
      .ok (wrapper, how)) :
    ∃ c id properties, Node.Awaiting { m with properties } r bound ∧
      b.build [.advance .shift, .advance (.openNode tag), .advance (.reference l), .advance .gap] =
        some c ∧
      c.state = { b.state with
        segments :=
          { id, reference := some r, node := some wrapper, lastBound := some l } ::
            { parent with node := some { m with properties }, lastBound := none } :: rest
        last := some .gap } := by
  obtain ⟨properties, how', hunbind, hawaiting⟩ := hfilled.unbind
  have hshifted : Change ⟨b.nextId⟩ b.state .shift _ _ :=
    .shift hheld hsegments hnode hlast hunbind
  obtain ⟨b₁, answer₁, hshift, hstate₁⟩ := exists_edit (.advance hshifted)
  obtain ⟨b₂, id, hopened, hstate₂⟩ :=
    exists_build_opened (b := b₁) (by rw [hstate₁]) rfl tag l
  have hgap : Change ⟨b₂.nextId⟩ b₂.state .gap _ _ :=
    .gap (by rw [hstate₂]; rfl) rfl rfl rfl (by rw [hstate₂, hstate₁]; exact hbind)
  obtain ⟨c, answer₃, hbound, hstate₃⟩ := exists_edit (.advance hgap)
  refine ⟨c, ⟨b.nextId⟩, properties, hawaiting, ?_, ?_⟩
  · have hfilled : b₁.build ([_, _] ++ [_]) = some c :=
      build_append_iff.mpr ⟨b₂, hopened, build_singleton_iff.mpr ⟨answer₃, hbound⟩⟩
    exact build_cons_iff.mpr ⟨b₁, answer₁, hshift, hfilled⟩
  · rw [hstate₃, hstate₂, hstate₁]
    obtain ⟨⟨_, _, _, held, _, _⟩, _, _, _⟩ := b
    cases hheld
    rfl

theorem exists_close_of_rebased {base : Segment} {rest : List Segment} {r : Reference} {m : Node}
    {properties : List (String × Property)} {bound : List (Reference × Property)}
    {lastBound : Option Reference} (hshaped : b.state.Shaped)
    (h : Rebased (some r) (some r)
      ({ base with node := some { m with properties }, lastBound } :: rest) (base :: rest)
      b.state c.state)
    (hbase : base.node = some m) (hawaiting : m.Awaiting r bound)
    (hemptied : Node.Awaiting { m with properties } r bound)
    (hheight : b.height = rest.length + 2) (hnode : b.node?.isSome) :
    ∃ b' c', b.build [.advance .close] = some b' ∧ c.build [.advance .close] = some c' ∧
      b'.state = c'.state := by
  have hatop := h.segments
  obtain ⟨segment, below, hsegments⟩ : ∃ segment below, b.state.segments = segment :: below :=
    List.exists_cons_of_length_pos (by rw [show b.state.segments.length = _ from hheight]; omega)
  rw [node?, hsegments, List.head?_cons, Option.bind_some] at hnode
  obtain ⟨n, hn⟩ := Option.isSome_iff_exists.mp hnode
  obtain ⟨_, hfilled, _⟩ := hshaped.filled hsegments hn
  obtain ⟨x, how, how', hbind, hbind'⟩ := hawaiting.bind_eq hemptied hfilled.proper_ofNode
  rw [hsegments] at hatop
  rw [height, hsegments, List.length_cons] at hheight
  obtain ⟨rfl, hreference, id, hsegments'⟩ := hatop.eq_bottom (by simpa using hheight)
  obtain ⟨b', answer, hclose, hstate⟩ := exists_edit (b := b)
    (.advance (Change.close hsegments hn hreference rfl hbind'))
  obtain ⟨c', answer', hclose', hstate'⟩ := exists_edit (b := c)
    (.advance (Change.close hsegments' hn rfl hbase hbind))
  refine ⟨b', c', build_singleton_iff.mpr ⟨answer, hclose⟩,
    build_singleton_iff.mpr ⟨answer', hclose'⟩, ?_⟩
  rw [hstate, hstate', h.doctype, h.root, h.held, h.written]

/-! ## The two ways to wrap a value -/

/-- The reference that waits in `b` gets its value from the edits and the terminal: the
edits leave it on the path, the terminal does not, and nothing is held in the end. -/
def TakesValue (b : Builder) (value : List Edit) (t : Terminal) (b' : Builder) : Prop :=
  ∃ b₁ answer, b.buildAbove b.height value = some b₁ ∧ b₁.advance t = (b', .ok answer) ∧
    b'.height + 1 = b.height ∧ b'.state.held = none

/-- The edits never leave the innermost segment, and end with its node open. -/
def FillsOpen (b : Builder) (content : List Edit) (b' : Builder) : Prop :=
  b.buildAbove b.height content = some b' ∧ b'.height = b.height ∧ b'.node?.isSome

/-- A value for the reference `r`, and then a wrapper around it. -/
def shifted (r : Reference) (value : List Edit) (t : Terminal) (tag : OpenTag) (l : Reference) :
    List Edit :=
  .advance (.reference r) :: value ++ .advance t ::
    [.advance .shift, .advance (.openNode tag), .advance (.reference l), .advance .gap]

/-- A wrapper for the reference `r`, and then a value inside of it. -/
def nested (r : Reference) (value : List Edit) (t : Terminal) (tag : OpenTag) (l : Reference) :
    List Edit :=
  .advance (.reference r) :: [.advance (.openNode tag), .advance (.reference l)] ++
    (value ++ [.advance t])

/-- A value is built in its slot and in the slot of a wrapper alike. -/
theorem exists_build_nested {slot filled : Builder} {value : List Edit} {t : Terminal}
    {base : Segment} {rest : List Segment} {id : PathId} {r : Reference}
    (hshaped : slot.state.Shaped)
    (hsegments : slot.state.segments = { id, reference := some r } :: base :: rest)
    (hvalue : slot.TakesValue value t filled) (tag : OpenTag) (l : Reference) :
    ∃ c v m m' wrapper how how', v.Proper ∧ base.node = some m ∧
      m.bind r v = .ok (m', how) ∧
      Node.bind (Node.addChild { tag } (.reference l)) l v = .ok (wrapper, how') ∧
      filled.state.segments = { base with node := some m', lastBound := some r } :: rest ∧
      slot.build ([.advance (.openNode tag), .advance (.reference l)] ++ (value ++ [.advance t])) =
        some c ∧
      c.state = { filled.state with
        segments := { id, reference := some r, node := some wrapper, lastBound := some l } ::
          base :: rest } := by
  obtain ⟨b₁, answer, hbuild, hterminal, hheight, _⟩ := hvalue
  have hslot : slot.height = rest.length + 2 := by
    rw [height, hsegments, List.length_cons, List.length_cons]
  obtain ⟨c, id', hopened, hstate⟩ := exists_build_opened hsegments rfl tag l
  have hrebased : Rebased (some r) (some l) (base :: rest)
      ({ id, reference := some r, node := some (Node.addChild { tag } (.reference l)) } ::
        base :: rest) slot.state c.state := by
    rw [hstate]
    refine ⟨rfl, rfl, rfl, rfl, ?_⟩
    rw [hsegments]
    exact .bottom _ _ _ _
  obtain ⟨c₁, hbuild', hrebased₁⟩ :=
    exists_build_of_rebased hrebased (by rw [hslot]; exact Nat.lt_succ_self _) hbuild
  obtain ⟨s, undo, hchange, hfilled⟩ := state_of_advance_eq_ok hterminal
  have hs : s.segments.length = rest.length + 1 := by
    have hsame : filled.height = s.segments.length := by rw [height, hfilled]
    omega
  obtain ⟨v, m, m', how, hproper, hm, hbind, hs, hlanding⟩ :=
    hrebased₁.of_leaving (shaped_of_buildAbove hshaped hbuild) hchange hs ⟨c₁.nextId⟩
  obtain ⟨wrapper, how', hwrapper⟩ := Node.exists_bind_ofTag tag l hproper
  obtain ⟨undo', hchange'⟩ := hlanding rfl rfl hwrapper
  obtain ⟨c₂, answer', hterminal', hstate₂⟩ := exists_edit (.advance hchange')
  refine ⟨c₂, v, m, m', wrapper, how, how', hproper, hm, hbind, hwrapper, ?_, ?_, ?_⟩
  · rw [hfilled, hs]
  · exact build_append_iff.mpr ⟨c, hopened, build_append_iff.mpr
      ⟨c₁, hbuild', build_singleton_iff.mpr ⟨answer', hterminal'⟩⟩⟩
  · rw [hstate₂, hfilled, hs, hrebased₁.doctype, hrebased₁.root, hrebased₁.written]

/-- Both ways lead to the same open wrapper, up to what its slot went through. -/
theorem exists_rebased_of_takesValue {r : Reference} {slot filled : Builder} {value : List Edit}
    {t : Terminal} (hshaped : b.state.Shaped)
    (hslot : b.build [.advance (.reference r)] = some slot) (hvalue : slot.TakesValue value t filled)
    (tag : OpenTag) (l : Reference) :
    ∃ wrapped wrapped' base rest m properties bound,
      b.build (shifted r value t tag l) = some wrapped ∧
      b.build (nested r value t tag l) = some wrapped' ∧
      wrapped.height = rest.length + 2 ∧ base.node = some m ∧ m.Awaiting r bound ∧
      Node.Awaiting { m with properties } r bound ∧
      Rebased (some r) (some r)
        ({ base with node := some { m with properties }, lastBound := none } :: rest)
        (base :: rest) wrapped.state wrapped'.state := by
  obtain ⟨base, rest, m, bound, id, hawaiting, hbase, hsegments⟩ :=
    of_build_reference hshaped hslot
  obtain ⟨wrapped', v, m₀, m', wrapper, how, how', hproper, hm₀, hbind, hwrapper, hfilled,
    hnested, hstate'⟩ := exists_build_nested (shaped_of_buildAbove hshaped hslot) hsegments hvalue
      tag l
  cases hbase.symm.trans hm₀
  obtain ⟨b₁, answer, hbuild, hterminal, _, hheld⟩ := hvalue
  obtain ⟨properties, how₁, hbind₁, hnode⟩ := hawaiting.bind hproper
  cases hbind.symm.trans hbind₁
  obtain ⟨wrapped, id', emptied, hemptied, hwrapped, hstate⟩ :=
    exists_build_wrapped hfilled rfl rfl hheld hnode tag l hwrapper
  have hbuilt : b.build ([.advance (.reference r)] ++ value) = some b₁ :=
    build_append_iff.mpr ⟨slot, hslot, build_of_buildAbove hbuild⟩
  have hslot' : b.build (.advance (.reference r) :: value ++ [.advance t]) = some filled :=
    build_append_iff.mpr ⟨b₁, hbuilt, build_singleton_iff.mpr ⟨answer, hterminal⟩⟩
  refine ⟨wrapped, wrapped', base, rest, m, emptied, bound, ?_, ?_, ?_, hbase, hawaiting, hemptied,
    ?_⟩
  · have happend := build_append_iff.mpr ⟨filled, hslot', hwrapped⟩
    rwa [List.append_assoc] at happend
  · have happend := build_append_iff.mpr ⟨slot, hslot, hnested⟩
    exact happend
  · rw [height, hstate, List.length_cons, List.length_cons]
  · rw [hstate, hstate']
    exact ⟨rfl, rfl, rfl, rfl, .bottom _ _ _ _⟩

/-- Wrapping a value after it was bound and building it inside of the wrapper lead to the
same tree, with the same names of its open segments.  The value may be anything that fills
the slot of the reference and leaves nothing held, and the wrapper may be filled with
anything that never leaves it and ends with it open. -/
theorem shift_reparents (requests : List Request) {r : Reference} {slot filled : Builder}
    {value : List Edit} {t : Terminal}
    (hslot : (start.after requests).build [.advance (.reference r)] = some slot)
    (hvalue : slot.TakesValue value t filled) (tag : OpenTag) (l : Reference) :
    let b := start.after requests
    ∃ wrapped, b.build (shifted r value t tag l) = some wrapped ∧
      ∀ content inner, wrapped.FillsOpen content inner →
        ∃ c d, b.build (shifted r value t tag l ++ content ++ [.advance .close]) = some c ∧
          b.build (nested r value t tag l ++ content ++ [.advance .close]) = some d ∧
          c.state = d.state := by
  intro b
  have hshaped := (matches_start.after requests).mirrors.shaped
  obtain ⟨wrapped, wrapped', base, rest, m, properties, bound, hshifted, hnested, hheight, hbase,
    hawaiting, hemptied, hrebased⟩ := exists_rebased_of_takesValue hshaped hslot hvalue tag l
  refine ⟨wrapped, hshifted, ?_⟩
  rintro content inner ⟨hcontent, hsame, hnode⟩
  have hleast : (rest.length + 1) < wrapped.height := by
    rw [hheight]
    exact Nat.lt_succ_self _
  obtain ⟨inner', hcontent', hrebased'⟩ := exists_build_of_rebased hrebased hleast hcontent
  have hinner := shaped_of_buildAbove (shaped_of_buildAbove hshaped hshifted) hcontent
  obtain ⟨c, d, hclose, hclose', hstate⟩ := exists_close_of_rebased hinner hrebased' hbase
    hawaiting hemptied (hsame.trans hheight) hnode
  refine ⟨c, d, ?_, ?_, hstate⟩
  · exact build_append_iff.mpr
      ⟨inner, build_append_iff.mpr ⟨wrapped, hshifted, build_of_buildAbove hcontent⟩, hclose⟩
  · exact build_append_iff.mpr
      ⟨inner', build_append_iff.mpr ⟨wrapped', hnested, hcontent'⟩, hclose'⟩

def itemListed : List Request :=
  [.advance (.openNode (.typed "Root")), .advance (.reference (.array "items")),
    .advance .null]

def nameValue : List Edit := [.advance (.openNode (.typed "Name")), .advance (.literal "f")]

def arguments : List Edit :=
  [.advance (.reference { name := "argument" }), .advance .null, .advance .shift,
    .advance (.openNode (.typed "Spread")), .advance (.reference { name := "spread" }),
    .advance .gap, .advance .close, .write "called", .bindAttribute "arity" (.text "1")]

/-- The second item is a name first and the callee of a call then. -/
theorem shift_reparents_itemListed : ∃ slot filled wrapped inner c d : Builder,
    (start.after itemListed).build [.advance (.reference (.array "items"))] =
      some slot ∧
    slot.TakesValue nameValue .close filled ∧
    (start.after itemListed).build (shifted (.array "items") nameValue .close
      (.typed "Call") { name := "callee" }) = some wrapped ∧
    wrapped.FillsOpen arguments inner ∧
    (start.after itemListed).build (shifted (.array "items") nameValue .close
      (.typed "Call") { name := "callee" } ++ arguments ++ [.advance .close]) = some c ∧
    (start.after itemListed).build (nested (.array "items") nameValue .close
      (.typed "Call") { name := "callee" } ++ arguments ++ [.advance .close]) = some d ∧
    c.state = d.state := by
  have hvalue : ((start.after itemListed).build
      [.advance (.reference (.array "items"))]).bind (fun slot =>
        (slot.buildAbove slot.height nameValue).map fun b =>
          (slot.height, (b.advance .close).1.height, (b.advance .close).1.state.held.isNone,
            (b.advance .close).2)) =
      some (2, 1, true, .ok (.tag .close)) := by decide +kernel
  obtain ⟨slot, hslot, hnamed⟩ := Option.bind_eq_some_iff.mp hvalue
  obtain ⟨b, hname, hclosed⟩ := Option.map_eq_some_iff.mp hnamed
  simp only [Prod.mk.injEq, Option.isNone_iff_eq_none] at hclosed
  obtain ⟨hslotHeight, hfilledHeight, hheld, hanswer⟩ := hclosed
  have htakes : slot.TakesValue nameValue .close (b.advance .close).1 :=
    ⟨b, _, hname, Prod.ext rfl hanswer, by omega, hheld⟩
  have hcontent : ((start.after itemListed).build (shifted (.array "items")
      nameValue .close (.typed "Call") { name := "callee" })).bind (fun wrapped =>
        (wrapped.buildAbove wrapped.height arguments).map fun inner =>
          (wrapped.height, inner.height, inner.node?.isSome)) = some (2, 2, true) := by
    decide +kernel
  obtain ⟨wrapped, hwrapped, hfilling⟩ := Option.bind_eq_some_iff.mp hcontent
  obtain ⟨inner, harguments, hinner⟩ := Option.map_eq_some_iff.mp hfilling
  simp only [Prod.mk.injEq] at hinner
  have hfills : wrapped.FillsOpen arguments inner :=
    ⟨harguments, hinner.2.1.trans hinner.1.symm, hinner.2.2⟩
  obtain ⟨wrapped', hwrapped', hboth⟩ := shift_reparents itemListed hslot htakes (.typed "Call")
    { name := "callee" }
  cases hwrapped.symm.trans hwrapped'
  obtain ⟨c, d, hc, hd, hstate⟩ := hboth arguments inner hfills
  exact ⟨slot, _, wrapped, inner, c, d, hslot, htakes, hwrapped, hfills, hc, hd, hstate⟩

end Builder

end Backtrack
