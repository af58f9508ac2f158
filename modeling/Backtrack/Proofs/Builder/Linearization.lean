import Backtrack.Proofs.Builder.Draft

/-!
Building and linearising are inverse.  The linearisation of a tree is the series
of terminals that spells it out.  A builder that is fed the linearisation of a
well-formed tree accepts every terminal and builds that tree, and any series of
terminals without doctypes and shifts from which a tree was built is the
linearisation of that tree.
-/

namespace Backtrack

mutual
def Outline.terminals : Outline → List Terminal
  | .node tag items => .openNode tag :: (Outline.itemsTerminals items ++ [.close])
  | .null => [.null]
  | .gap => [.gap]
  | .list _ => []

def Outline.itemTerminals : OutlineItem → List Terminal
  | .literal text => [.literal text]
  | .bound r value => .reference r :: value.terminals
  | .unbound r => [.reference r]

def Outline.itemsTerminals : List OutlineItem → List Terminal
  | [] => []
  | item :: rest => Outline.itemTerminals item ++ Outline.itemsTerminals rest
end

/-- The children in order, each reference with the linearisation of its value
after it. -/
def Node.linearize (n : Node) : List Terminal := n.outline.terminals

/-- Neither a doctype nor a shift. -/
def Terminal.isPlain : Terminal → Bool
  | .doctype _ => false
  | .shift => false
  | _ => true

def Builder.feed (b : Builder) : List Terminal → Except Error Builder
  | [] => .ok b
  | t :: rest =>
      match b.advance t with
      | (b, .ok _) => b.feed rest
      | (_, .error e) => .error e

/-! ## Drafts of outlines -/

theorem Outline.itemsTerminals_append (items more : List OutlineItem) :
    Outline.itemsTerminals (items ++ more) =
      Outline.itemsTerminals items ++ Outline.itemsTerminals more := by
  induction items with
  | nil => rfl
  | cons item rest ih =>
      rw [List.cons_append, itemsTerminals, itemsTerminals, ih, List.append_assoc]

namespace Trail

def addItems (trail : Trail) (items : List OutlineItem) : Trail :=
  items.foldl (fun trail item => trail.add item) trail

theorem addItems_root (tag : OpenTag) (items more : List OutlineItem) :
    (root tag items).addItems more = .root tag (items ++ more) := by
  induction more generalizing items with
  | nil => rw [List.append_nil, addItems, List.foldl_nil]
  | cons item rest ih =>
      have hrest := ih (items ++ [item])
      rw [List.append_assoc] at hrest
      exact hrest

theorem addItems_inner (outer : Trail) (r : Reference) (tag : OpenTag)
    (items more : List OutlineItem) :
    (inner outer r tag items).addItems more = .inner outer r tag (items ++ more) := by
  induction more generalizing items with
  | nil => rw [List.append_nil, addItems, List.foldl_nil]
  | cons item rest ih =>
      have hrest := ih (items ++ [item])
      rw [List.append_assoc] at hrest
      exact hrest

theorem references_add (trail : Trail) (item : OutlineItem) :
    (trail.add item).references = trail.references ++ item.reference?.toList := by
  cases trail <;> cases item <;> simp [add, references, items, OutlineItem.reference?,
    OutlineItem.child, Child.reference?]

end Trail

namespace Draft

theorem addAll_append (d : Draft) (ts us : List Terminal) :
    d.addAll (ts ++ us) = (d.addAll ts).bind (·.addAll us) :=
  List.foldlM_append

theorem addAll_cons (d : Draft) (t : Terminal) (ts : List Terminal) :
    d.addAll (t :: ts) = (d.add t).bind (·.addAll ts) :=
  List.foldlM_cons

/-- A reference that waits can be given the outline as its value. -/
def Takes (o : Outline) : Prop :=
  ∀ trail r, (waiting trail r).addAll o.terminals = some (.within (trail.add (.bound r o)))

/-- Whether an item can come after the references `rs` of the same node. -/
def Extends (rs : List Reference) : OutlineItem → Prop
  | .literal _ => True
  | .bound r value => r.isFree rs = true ∧ Takes value
  | .unbound _ => False

theorem addAll_itemTerminals {trail : Trail} {item : OutlineItem}
    (h : Extends trail.references item) :
    (within trail).addAll (Outline.itemTerminals item) = some (.within (trail.add item)) := by
  cases item with
  | literal text => rfl
  | bound r value =>
      obtain ⟨hfree, hvalue⟩ := h
      rw [Outline.itemTerminals, addAll_cons, add, if_pos hfree]
      exact hvalue trail r
  | unbound r => cases h

theorem addAll_itemsTerminals (trail : Trail) {items : List OutlineItem}
    (h : ∀ before item after, items = before ++ item :: after →
      Extends (trail.references ++ before.filterMap OutlineItem.reference?) item) :
    (within trail).addAll (Outline.itemsTerminals items) =
      some (.within (trail.addItems items)) := by
  induction items generalizing trail with
  | nil => rfl
  | cons item rest ih =>
      have hitem : Extends trail.references item := by
        simpa using h [] item rest rfl
      have hrest : ∀ before next after, rest = before ++ next :: after →
          Extends ((trail.add item).references ++ before.filterMap OutlineItem.reference?)
            next := by
        intro before next after hsplit
        have hnext := h (item :: before) next after (by rw [hsplit, List.cons_append])
        rw [Trail.references_add, List.append_assoc]
        cases hreference : item.reference? with
        | none => simpa [hreference] using hnext
        | some r => simpa [hreference] using hnext
      rw [Outline.itemsTerminals, addAll_append, addAll_itemTerminals hitem, Option.bind_some,
        ih _ hrest]
      rfl

end Draft

/-! ## From a tree to terminals and back -/

theorem Node.SlotsFit.isFree {n : Node} {before after : List Reference} {r : Reference}
    (h : n.SlotsFit) (hreferences : n.references = before ++ r :: after) :
    r.isFree before = true := by
  rw [isFree_iff]
  intro earlier hearlier hname
  have hmem : r.name ∈ n.properties.map (·.1) := by
    rw [h.ordered, List.mem_eraseDups, hreferences]
    simp
  obtain ⟨⟨name, value⟩, hp, rfl⟩ := List.mem_map.mp hmem
  have hsame : n.referencesTo r.name =
      before.filter (·.name == r.name) ++ r :: after.filter (·.name == r.name) := by
    rw [referencesTo, hreferences, List.filter_append, List.filter_cons_of_pos (by simp)]
  have hbefore : earlier ∈ before.filter (·.name == r.name) :=
    List.mem_filter.mpr ⟨hearlier, beq_iff_eq.mpr hname⟩
  have hfits : value.Fits (n.referencesTo r.name) := h.fits (r.name, value) hp
  rw [hsame] at hfits
  generalize hall : before.filter (·.name == r.name) ++ r :: after.filter (·.name == r.name) =
    rs at hfits
  cases hfits with
  | single _ _ =>
      -- Two references cannot share a single slot.
      have hlength := congrArg List.length hall
      have hpos := List.length_pos_of_mem hbefore
      rw [List.length_append, List.length_cons, List.length_singleton] at hlength
      omega
  | array _ harrays _ _ =>
      refine ⟨harrays earlier ?_, harrays r ?_⟩
      · rw [← hall]
        exact List.mem_append_left _ hbefore
      · rw [← hall]
        exact List.mem_append_right _ List.mem_cons_self

theorem Node.Filled.extends_items {n : Node} {bound : List (Reference × Property)} {tag : OpenTag}
    {items : List OutlineItem} (h : n.Filled bound) (houtline : n.outline = .node tag items)
    (hvalues : ∀ b ∈ bound, Draft.Takes b.2.outline) {before after : List OutlineItem}
    {item : OutlineItem} (hsplit : items = before ++ item :: after) :
    Draft.Extends (before.filterMap OutlineItem.reference?) item := by
  have hreferences := references_eq_of_outline h houtline
  have hitems : items = Child.pair n.children (bound.reverse.map (·.2.outline)) := by
    rw [h.outline_eq, Outline.node.injEq] at houtline
    exact houtline.2.symm
  have hmem : item ∈ Child.pair n.children (bound.reverse.map (·.2.outline)) := by
    rw [← hitems, hsplit]
    exact List.mem_append_right _ List.mem_cons_self
  rcases Child.mem_pair h.length_references hmem with ⟨text, rfl⟩ | ⟨r, o, ho, rfl⟩
  · trivial
  · obtain ⟨b, hb, rfl⟩ := List.mem_map.mp ho
    have hsplit' : n.references = before.filterMap OutlineItem.reference? ++
        r :: after.filterMap OutlineItem.reference? := by
      rw [hreferences, hsplit, List.filterMap_append]
      rfl
    exact ⟨h.slotsFit.isFree hsplit', hvalues b (List.mem_reverse.mp hb)⟩

/-- A reference can be given any well-formed value by its terminals. -/
theorem Property.Proper.takes {value : Property} (h : value.Proper) :
    Draft.Takes value.outline := by
  induction h with
  | null => exact fun _ _ => rfl
  | gap => exact fun _ _ => rfl
  | @node tag children properties bound hreferences hbinds hproper ih =>
      intro trail r
      have hfilled : Node.Filled { tag, children, properties } bound :=
        ⟨hreferences, hbinds, hproper⟩
      have houtline : (Property.node tag children properties).outline = .node tag _ :=
        hfilled.outline_eq
      have hitems := Draft.addAll_itemsTerminals (.inner trail r tag [])
        fun _ _ _ hsplit => hfilled.extends_items houtline ih hsplit
      rw [houtline, Outline.terminals, Draft.addAll_cons, Draft.add, Option.bind_some,
        Draft.addAll_append, hitems, Trail.addItems_inner]
      rfl

/-- The terminals of a well-formed tree make a draft of that tree. -/
theorem Draft.addAll_linearize {n : Node} (h : (Property.ofNode n).Proper) :
    Draft.empty.addAll n.linearize = some (.closed n.outline) := by
  obtain ⟨tag, children, properties⟩ := n
  cases h with
  | node bound hreferences hbinds hproper =>
      have hfilled : Node.Filled { tag, children, properties } bound :=
        ⟨hreferences, hbinds, hproper⟩
      have houtline := hfilled.outline_eq
      have hitems := Draft.addAll_itemsTerminals (.root tag [])
        fun _ _ _ hsplit => hfilled.extends_items houtline
          (fun b hb => (hproper b hb).takes) hsplit
      rw [Node.linearize, houtline, Outline.terminals, addAll_cons, add, Option.bind_some,
        addAll_append, hitems, Trail.addItems_root]
      rfl

namespace Trail

def terminals : Trail → List Terminal
  | .root tag items => .openNode tag :: Outline.itemsTerminals items
  | .inner outer r tag items =>
      outer.terminals ++ .reference r :: .openNode tag :: Outline.itemsTerminals items

theorem terminals_add (trail : Trail) (item : OutlineItem) :
    (trail.add item).terminals = trail.terminals ++ Outline.itemTerminals item := by
  cases trail <;> simp [add, terminals, Outline.itemsTerminals_append, Outline.itemsTerminals]

end Trail

namespace Draft

def terminals : Draft → List Terminal
  | .empty => []
  | .within trail => trail.terminals
  | .waiting trail r => trail.terminals ++ [.reference r]
  | .closed root => root.terminals

theorem terminals_of_add {d d' : Draft} {t : Terminal} (h : d.add t = some d') :
    d'.terminals = d.terminals ++ [t] := by
  unfold add at h
  split at h
  case h_3 trail r =>
      split at h <;> cases h
      rfl
  case h_9 => cases h
  all_goals
    cases h
    simp [terminals, Trail.terminals_add, Trail.terminals, Outline.itemTerminals,
      Outline.terminals, Outline.itemsTerminals]

theorem terminals_of_addAll {d d' : Draft} {ts : List Terminal} (h : d.addAll ts = some d') :
    d'.terminals = d.terminals ++ ts := by
  induction ts generalizing d with
  | nil =>
      cases h
      rw [List.append_nil]
  | cons t rest ih =>
      rw [addAll_cons] at h
      obtain ⟨d₁, hadd, hrest⟩ := Option.bind_eq_some_iff.mp h
      rw [ih hrest, terminals_of_add hadd, List.append_assoc, List.singleton_append]

end Draft

/-! ## A tree is determined by its outline -/

theorem Child.pair_injective {children : List Child} {values values' : List Outline}
    (hlength : (children.filterMap reference?).length = values.length)
    (hlength' : (children.filterMap reference?).length = values'.length)
    (h : pair children values = pair children values') : values = values' := by
  induction children generalizing values values' with
  | nil =>
      rw [List.length_eq_zero_iff.mp hlength.symm, List.length_eq_zero_iff.mp hlength'.symm]
  | cons child rest ih =>
      cases child with
      | literal text => exact ih hlength hlength' (List.cons.inj h).2
      | reference r =>
          cases values with
          | nil => cases hlength
          | cons value values =>
              cases values' with
              | nil => cases hlength'
              | cons value' values' =>
                  obtain ⟨hitem, hrest⟩ := List.cons.inj h
                  cases hitem
                  rw [ih (Nat.succ.inj hlength) (Nat.succ.inj hlength') hrest]

theorem Node.bound_eq_of_outlines {bound bound' : List (Reference × Property)}
    (hreferences : bound.map (·.1) = bound'.map (·.1))
    (houtlines : bound.map (·.2.outline) = bound'.map (·.2.outline))
    (hvalues : ∀ b ∈ bound, ∀ b' ∈ bound', b.2.outline = b'.2.outline → b.2 = b'.2) :
    bound = bound' := by
  induction bound generalizing bound' with
  | nil => exact (List.map_eq_nil_iff.mp hreferences.symm).symm
  | cons b rest ih =>
      cases bound' with
      | nil => cases hreferences
      | cons b' rest' =>
          obtain ⟨href, hreferences⟩ := List.cons.inj hreferences
          obtain ⟨hout, houtlines⟩ := List.cons.inj houtlines
          have hvalue := hvalues b List.mem_cons_self b' List.mem_cons_self hout
          have hrest := ih hreferences houtlines fun c hc c' hc' =>
            hvalues c (List.mem_cons_of_mem _ hc) c' (List.mem_cons_of_mem _ hc')
          rw [hrest, Prod.ext href hvalue]

theorem Property.Proper.eq_of_outline {value other : Property} (h : value.Proper)
    (h' : other.Proper) (houtline : value.outline = other.outline) : value = other := by
  induction h generalizing other with
  | null =>
      cases h' with
      | null => rfl
      | gap => cases houtline
      | node _ _ _ _ => cases houtline
  | gap =>
      cases h' with
      | null => cases houtline
      | gap => rfl
      | node _ _ _ _ => cases houtline
  | @node tag children properties bound hreferences hbinds hproper ih =>
      cases h' with
      | null => cases houtline
      | gap => cases houtline
      | @node tag' children' properties' bound' hreferences' hbinds' hproper' =>
          have hfilled : Node.Filled { tag, children, properties } bound :=
            ⟨hreferences, hbinds, hproper⟩
          have hfilled' : Node.Filled ⟨tag', children', properties'⟩ bound' :=
            ⟨hreferences', hbinds', hproper'⟩
          have hnodes : Node.outline { tag, children, properties } =
              Node.outline ⟨tag', children', properties'⟩ := houtline
          rw [hfilled.outline_eq, hfilled'.outline_eq, Outline.node.injEq] at hnodes
          obtain ⟨htag, hpairs⟩ := hnodes
          have hchildren : children = children' := by
            have hmap := congrArg (List.map OutlineItem.child) hpairs
            rwa [Child.map_child_pair, Child.map_child_pair] at hmap
          subst htag hchildren
          have hvalues := Child.pair_injective hfilled.length_references
            hfilled'.length_references hpairs
          have hbound : bound = bound' := by
            apply Node.bound_eq_of_outlines
            · exact List.reverse_inj.mp (hreferences.symm.trans hreferences')
            · rwa [List.map_reverse, List.map_reverse, List.reverse_inj] at hvalues
            · exact fun b hb b' hb' => ih b hb (hproper' b' hb')
          subst hbound
          rw [hbinds.unique hbinds']

namespace Builder

/-! ## Feeding -/

theorem feed_of_addAll {b : Builder} {d d' : Draft} {ts : List Terminal} (h : b.state.Follows d)
    (hadd : d.addAll ts = some d') : ∃ b', b.feed ts = .ok b' ∧ b'.state.Follows d' := by
  induction ts generalizing b d with
  | nil =>
      cases hadd
      exact ⟨b, rfl, h⟩
  | cons t rest ih =>
      rw [Draft.addAll_cons] at hadd
      obtain ⟨d₁, hadd, hrest⟩ := Option.bind_eq_some_iff.mp hadd
      obtain ⟨hanswer, hfollows⟩ := advance_of_add h hadd
      obtain ⟨b', hfeed, hfollows'⟩ := ih hfollows hrest
      have hadvance : b.advance t = ((b.advance t).1, .ok (.tag t)) := Prod.ext rfl hanswer
      refine ⟨b', ?_, hfollows'⟩
      rw [feed, hadvance]
      exact hfeed

theorem addAll_of_feed {b b' : Builder} {d : Draft} {ts : List Terminal} (h : b.state.Follows d)
    (hplain : ∀ t ∈ ts, t.isPlain = true) (hfeed : b.feed ts = .ok b') :
    ∃ d', d.addAll ts = some d' ∧ b'.state.Follows d' := by
  induction ts generalizing b d with
  | nil =>
      cases hfeed
      exact ⟨d, rfl, h⟩
  | cons t rest ih =>
      rw [List.forall_mem_cons] at hplain
      have hshift : t ≠ .shift := by
        rintro rfl
        cases hplain.1
      have hdoctype : ∀ tag, t ≠ .doctype tag := by
        rintro tag rfl
        cases hplain.1
      rw [feed] at hfeed
      split at hfeed
      · next b₁ answer hadvance =>
          obtain ⟨d₁, hadd, hfollows⟩ := add_of_advance h hadvance hshift hdoctype
          obtain ⟨d', haddAll, hfollows'⟩ := ih hfollows hplain.2 hfeed
          exact ⟨d', by rw [Draft.addAll_cons, hadd, Option.bind_some, haddAll], hfollows'⟩
      · cases hfeed

/-- A builder whose draft is closed finishes with a tree that reads like it. -/
theorem finish_of_follows {b : Builder} {o : Outline} (h : b.state.Follows (.closed o)) :
    ∃ document, b.finish = .ok document ∧ document.root.outline = o ∧
      (Property.ofNode document.root).Proper := by
  obtain ⟨n, hroot, houtline⟩ := Option.map_eq_some_iff.mp h.root
  obtain ⟨bound, hfilled⟩ := h.shaped.root_filled n hroot
  have hsegments : b.state.segments = [] := List.map_eq_nil_iff.mp h.path
  exact ⟨⟨b.state.doctype, n, b.state.written⟩,
    finish_eq_ok_iff.mpr ⟨hsegments, hroot, rfl, rfl⟩, houtline, hfilled.proper_ofNode⟩

theorem eq_closed_of_finish {b : Builder} {d : Draft} {document : Document}
    (h : b.state.Follows d) (hfinish : b.finish = .ok document) :
    d = .closed document.root.outline := by
  have hroot := h.root
  rw [(finish_eq_ok_iff.mp hfinish).2.1, Option.map_some] at hroot
  cases d with
  | closed o => rw [Option.some.inj hroot]
  | _ => cases hroot

/-- A builder fed the linearisation of a well-formed tree finishes with that tree,
and what it was fed before it finished, without doctypes and shifts, is the
linearisation of the tree. -/
theorem feed_linearize_inverse :
    (∀ n : Node, (Property.ofNode n).WellFormed →
      ∃ b document, start.feed n.linearize = .ok b ∧ b.finish = .ok document ∧
        document.root = n) ∧
    ∀ (ts : List Terminal) (b : Builder) (document : Document),
      (∀ t ∈ ts, t.isPlain = true) → start.feed ts = .ok b → b.finish = .ok document →
      document.root.linearize = ts := by
  constructor
  · intro n hn
    have hproper := Property.proper_iff_wellFormed.mpr hn
    obtain ⟨b, hfeed, hfollows⟩ := feed_of_addAll follows_start (Draft.addAll_linearize hproper)
    obtain ⟨document, hfinish, houtline, hroot⟩ := finish_of_follows hfollows
    have hsame := hroot.eq_of_outline hproper houtline
    refine ⟨b, document, hfeed, hfinish, ?_⟩
    simpa using congrArg Property.node? hsame
  · intro ts b document hplain hfeed hfinish
    obtain ⟨d, haddAll, hfollows⟩ := addAll_of_feed follows_start hplain hfeed
    rw [eq_closed_of_finish hfollows hfinish] at haddAll
    exact Draft.terminals_of_addAll haddAll

def twoItems : Node where
  tag := .typed "Pair"
  children := [.reference (.array "items"), .literal ",", .reference (.array "items"),
    .reference { name := "rest" }]
  properties := [("items", .list [.null, .node (.typed "Item") [.literal "x"] []]),
    ("rest", .gap)]

theorem feed_linearize_inverse_twoItems :
    twoItems.linearize =
        [.openNode (.typed "Pair"), .reference (.array "items"), .null, .literal ",",
          .reference (.array "items"), .openNode (.typed "Item"), .literal "x", .close,
          .reference { name := "rest" }, .gap, .close] ∧
      ∃ b document, start.feed twoItems.linearize = .ok b ∧ b.finish = .ok document ∧
        document.root = twoItems ∧ document.root.linearize = twoItems.linearize := by
  have hitem : Node.SlotsFit { tag := .typed "Item", children := [.literal "x"] } :=
    ⟨by decide, by decide, by simp⟩
  have hslots : twoItems.SlotsFit := by
    refine ⟨by decide, by decide, ?_⟩
    intro p hp
    rcases List.mem_cons.mp hp with rfl | hp
    · exact .array (by decide) (by decide) rfl (by decide)
    · rw [List.mem_singleton.mp hp]
      exact .single rfl rfl
  have hwellFormed : (Property.ofNode twoItems).WellFormed := by
    refine .node hslots ?_
    intro value hvalue
    have hcases : value ∈ [.null, .node (.typed "Item") [.literal "x"] [], .gap] := hvalue
    simp only [List.mem_cons, List.not_mem_nil, or_false] at hcases
    rcases hcases with rfl | rfl | rfl
    · exact .null
    · exact .node hitem (by simp [Node.values])
    · exact .gap
  obtain ⟨b, document, hfeed, hfinish, hroot⟩ := feed_linearize_inverse.1 twoItems hwellFormed
  have hplain : ∀ t ∈ twoItems.linearize, t.isPlain = true := by decide +kernel
  exact ⟨by decide +kernel, b, document, hfeed, hfinish, hroot,
    feed_linearize_inverse.2 _ b document hplain hfeed hfinish⟩

end Builder

end Backtrack
