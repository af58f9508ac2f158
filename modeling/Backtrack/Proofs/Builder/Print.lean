import Backtrack.Proofs.Builder.Linearization
import Backtrack.Proofs.Tree.Legible

/-!
The print of a finished document identifies its tree.  Two documents that a builder
finished, after whatever requests, and in which types and names are words, have the
same print only if both or neither have a doctype and their trees are the same up to
the flags, languages and attributes of the tags.
-/

namespace Backtrack

mutual
/-- Whether the types of all nodes and the names of all references are words, at any
depth. -/
def Property.isNamed : Property → Bool
  | .node tag children properties =>
    tag.nodeType.all Text.isName && children.all (·.reference?.all (Text.isName ·.name)) &&
      Property.entriesNamed properties
  | .null => true
  | .gap => true
  | .list items => Property.itemsNamed items

def Property.entriesNamed : List (String × Property) → Bool
  | [] => true
  | (_, value) :: rest => value.isNamed && Property.entriesNamed rest

def Property.itemsNamed : List Property → Bool
  | [] => true
  | value :: rest => value.isNamed && Property.itemsNamed rest
end

def Node.isNamed (n : Node) : Bool := (Property.ofNode n).isNamed

namespace Property

theorem isNamed_of_mem_items {items : List Property} (h : itemsNamed items = true) :
    ∀ item ∈ items, item.isNamed = true := by
  induction items with
  | nil => simp
  | cons item rest ih =>
      rw [itemsNamed, Bool.and_eq_true] at h
      exact List.forall_mem_cons.mpr ⟨h.1, ih h.2⟩

theorem isNamed_of_mem_values {value slot : Property} (h : slot.isNamed = true)
    (hvalue : value ∈ slot.values) : value.isNamed = true := by
  cases slot with
  | list items => exact isNamed_of_mem_items h value hvalue
  | _ => rwa [List.mem_singleton.mp hvalue]

theorem isNamed_of_mem_entries {ps : List (String × Property)} (h : entriesNamed ps = true) :
    ∀ entry ∈ ps, entry.2.isNamed = true := by
  induction ps with
  | nil => simp
  | cons entry rest ih =>
      rw [entriesNamed, Bool.and_eq_true] at h
      exact List.forall_mem_cons.mpr ⟨h.1, ih h.2⟩

end Property

theorem Node.Binds.mem_values {bound : List (Reference × Property)}
    {ps : List (String × Property)} (h : Binds bound ps) {b : Reference × Property}
    (hb : b ∈ bound) : ∃ slot, ps.lookup b.1.name = some slot ∧ b.2 ∈ slot.values := by
  by_cases harray : b.1.isArray = true
  · obtain ⟨items, hitems⟩ := h.lookup_array b hb harray
    refine ⟨.list items, hitems, ?_⟩
    show b.2 ∈ items
    rw [h.eq_of_lookup_list harray hitems]
    exact List.mem_map_of_mem (List.mem_filter.mpr ⟨List.mem_reverse.mpr hb, beq_self_eq_true _⟩)
  · rw [Bool.not_eq_true] at harray
    obtain ⟨hlookup, hlist⟩ := h.lookup_single b hb harray
    refine ⟨b.2, hlookup, ?_⟩
    rw [Property.values_of_isList hlist]
    exact List.mem_singleton_self _

/-- The outline of a proper tree with words for types and names can be read back. -/
theorem Property.Proper.legible {value : Property} (h : value.Proper)
    (hnamed : value.isNamed = true) : value.outline.Legible := by
  induction h with
  | null => trivial
  | gap => trivial
  | @node tag children properties bound hreferences hbinds hproper ih =>
      rw [isNamed, Bool.and_eq_true, Bool.and_eq_true] at hnamed
      obtain ⟨⟨htype, hchildren⟩, hentries⟩ := hnamed
      have hfilled : Node.Filled { tag, children, properties } bound :=
        ⟨hreferences, hbinds, hproper⟩
      have houtline : (Property.node tag children properties).outline =
          .node tag (Child.pair children (bound.reverse.map (·.2.outline))) := hfilled.outline_eq
      rw [houtline]
      refine ⟨htype, Outline.itemsLegible_of_forall fun item hitem => ?_⟩
      have hchild : item.child ∈ children := by
        have hmem := List.mem_map_of_mem (f := OutlineItem.child) hitem
        rwa [Child.map_child_pair] at hmem
      rcases Child.mem_pair hfilled.length_references hitem with ⟨text, rfl⟩ | ⟨r, o, ho, rfl⟩
      · trivial
      · obtain ⟨b, hb, rfl⟩ := List.mem_map.mp ho
        have hbound := List.mem_reverse.mp hb
        obtain ⟨slot, hlookup, hvalue⟩ := hbinds.mem_values hbound
        have hslot := isNamed_of_mem_entries hentries _ (mem_of_lookup hlookup)
        exact ⟨List.all_eq_true.mp hchildren _ hchild,
          ih b hbound (isNamed_of_mem_values hslot hvalue)⟩

namespace Document

theorem head?_layout_ne {hidden : Char → Bool} {n : Node} (h : n.outline.Legible) :
    (n.outline.layout hidden 0).head? ≠ some '<' := by
  have htype : n.tag.nodeType.all Text.isName = true := h.1
  have hmark : n.outline.mark = n.tag.heading.toList := rfl
  rw [Outline.layout_eq_mark_append, hmark, OpenTag.heading]
  cases hs : n.tag.nodeType with
  | none => simp
  | some s =>
      rw [hs] at htype
      exact Text.head?_append_ne_of_isName htype (by decide) _

/-- The first line tells whether there is a doctype, and the others show the tree. -/
theorem layout_eq_of_renderBy {hidden : Char → Bool} {d d' : Document}
    (h : d.root.outline.Legible) (h' : d'.root.outline.Legible)
    (heq : d.renderBy hidden = d'.renderBy hidden) :
    d.doctype.isSome = d'.doctype.isSome ∧
      d.root.outline.layout hidden 0 = d'.root.outline.layout hidden 0 := by
  rw [renderBy, renderBy] at heq
  have hchars := String.ofList_injective heq
  cases hdoctype : d.doctype.isSome with
  | true =>
      cases hdoctype' : d'.doctype.isSome with
      | true =>
          rw [hdoctype, hdoctype'] at hchars
          exact ⟨rfl, List.append_cancel_left hchars⟩
      | false =>
          rw [hdoctype, hdoctype'] at hchars
          exact absurd (congrArg List.head? hchars).symm (head?_layout_ne h')
  | false =>
      cases hdoctype' : d'.doctype.isSome with
      | true =>
          rw [hdoctype, hdoctype'] at hchars
          exact absurd (congrArg List.head? hchars) (head?_layout_ne h)
      | false =>
          rw [hdoctype, hdoctype'] at hchars
          exact ⟨rfl, hchars⟩

end Document

namespace Builder

/-- Two finished documents in which types and names are words have the same print only
if both or neither have a doctype and their trees are the same up to the flags, languages
and attributes of the tags.  It does not matter which characters of a literal are written
by their code points. -/
theorem same_tree_of_render_eq {requests requests' : List Request} {d d' : Document}
    (hfinish : (start.after requests).finish = .ok d)
    (hfinish' : (start.after requests').finish = .ok d') (hnamed : d.root.isNamed = true)
    (hnamed' : d'.root.isNamed = true)
    (hprint : d.render = d'.render ∨ ∃ hidden, d.renderBy hidden = d'.renderBy hidden) :
    d.doctype.isSome = d'.doctype.isSome ∧ d.root.plain = d'.root.plain := by
  have hproper := proper_root_of_finish hfinish
  have hproper' := proper_root_of_finish hfinish'
  have hlegible : d.root.outline.Legible := hproper.legible hnamed
  have hlegible' : d'.root.outline.Legible := hproper'.legible hnamed'
  have hsome : ∃ hidden, d.renderBy hidden = d'.renderBy hidden := by
    rcases hprint with hprint | hprint
    · exact ⟨Text.isHidden, by rw [← d.render_eq_renderBy, ← d'.render_eq_renderBy, hprint]⟩
    · exact hprint
  obtain ⟨hidden, hprint⟩ := hsome
  obtain ⟨hdoctype, hlayout⟩ := Document.layout_eq_of_renderBy hlegible hlegible' hprint
  have hplain : d.root.outline.plain = d'.root.outline.plain :=
    (Outline.layout_append_inj _ _ hlegible hlegible' (Text.endsRun_nil _) (Text.endsRun_nil _)
      (congrArg (· ++ []) hlayout)).1
  have houtlines : (Property.ofNode d.root).plain.outline =
      (Property.ofNode d'.root).plain.outline := by
    rw [hproper.outline_plain, hproper'.outline_plain]
    exact hplain
  have hvalues := hproper.plain.eq_of_outline hproper'.plain houtlines
  rw [Node.plain_ofNode, Node.plain_ofNode] at hvalues
  exact ⟨hdoctype, Option.some.inj (congrArg Property.node? hvalues)⟩

def itemTagged (tag : OpenTag) : List Request :=
  [.advance (.doctype {}), .advance (.openNode {}), .advance (.reference (.array "items")),
    .advance (.openNode tag), .advance (.literal "\"\n"), .advance .close,
    .advance (.literal ","), .advance (.reference (.array "items")), .advance .null,
    .advance (.reference { name := "rest" }), .advance .gap, .advance .close]

/-- The print of the document, whatever the language of the item. -/
def itemShown : String :=
  "<!doctype>\n# \x7b\n  items[]: Item \x7b\n    \"\\\"\\n\"\n  \x7d\n" ++
    "  \",\"\n  items[]: null\n  rest: <//>\n\x7d"

theorem same_tree_of_render_eq_itemTagged :
    ∃ d d' : Document, (start.after (itemTagged (.typed "Item"))).finish = .ok d ∧
      (start.after (itemTagged ((OpenTag.typed "Item").withLanguage "list"))).finish = .ok d' ∧
      d.root.isNamed = true ∧ d'.root.isNamed = true ∧ d.render = itemShown ∧
      d'.render = itemShown ∧ d.doctype.isSome = d'.doctype.isSome ∧
      d.root.plain = d'.root.plain := by
  have hshown : ∀ tag ∈ [OpenTag.typed "Item", (OpenTag.typed "Item").withLanguage "list"],
      (start.after (itemTagged tag)).finish.toOption.map (fun d => (d.root.isNamed, d.render)) =
        some (true, itemShown) := by
    decide +kernel
  have hfirst := hshown _ List.mem_cons_self
  have hsecond := hshown _ (List.mem_cons_of_mem _ List.mem_cons_self)
  cases hfinish : (start.after (itemTagged (.typed "Item"))).finish with
  | error e => simp [hfinish, Except.toOption] at hfirst
  | ok d =>
      cases hfinish' :
          (start.after (itemTagged ((OpenTag.typed "Item").withLanguage "list"))).finish with
      | error e => simp [hfinish', Except.toOption] at hsecond
      | ok d' =>
          rw [hfinish] at hfirst
          rw [hfinish'] at hsecond
          obtain ⟨hnamed, hrender⟩ := Prod.mk.inj (Option.some.inj hfirst)
          obtain ⟨hnamed', hrender'⟩ := Prod.mk.inj (Option.some.inj hsecond)
          have hprint : d.render = d'.render := hrender.trans hrender'.symm
          exact ⟨d, d', rfl, rfl, hnamed, hnamed', hrender, hrender',
            same_tree_of_render_eq hfinish hfinish' hnamed hnamed' (Or.inl hprint)⟩

end Builder

end Backtrack
