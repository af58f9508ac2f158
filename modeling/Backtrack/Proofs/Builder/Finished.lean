import Backtrack.Proofs.Builder.Snapshot
import Backtrack.Proofs.Tree.WellFormed

/-!
Finished documents.  Whatever is asked of a builder, with branches, shifts and
requests that fail among it, a document that it finishes has a well-formed tree:
the slots of every node suit its references, and every reference stands for a
value.  The word for a reference without a value is therefore never printed.
-/

namespace Backtrack

/-! ## References that stand for a value -/

mutual
/-- Every reference stands for a value, at any depth. -/
def Outline.isResolved : Outline → Bool
  | .node _ items => Outline.itemsResolved items
  | .null => true
  | .gap => true
  | .list values => Outline.listResolved values

def Outline.itemResolved : OutlineItem → Bool
  | .literal _ => true
  | .bound _ value => value.isResolved
  | .unbound _ => false

def Outline.itemsResolved : List OutlineItem → Bool
  | [] => true
  | item :: rest => Outline.itemResolved item && Outline.itemsResolved rest

def Outline.listResolved : List Outline → Bool
  | [] => true
  | value :: rest => value.isResolved && Outline.listResolved rest
end

theorem Outline.itemsResolved_of_forall {items : List OutlineItem}
    (h : ∀ item ∈ items, Outline.itemResolved item = true) :
    Outline.itemsResolved items = true := by
  induction items with
  | nil => rfl
  | cons item rest ih =>
      rw [List.forall_mem_cons] at h
      rw [itemsResolved, h.1, ih h.2, Bool.and_self]

theorem Property.Proper.isResolved_outline {value : Property} (h : value.Proper) :
    value.outline.isResolved = true := by
  induction h with
  | null => rfl
  | gap => rfl
  | @node tag children properties bound hreferences hbinds hproper ih =>
      have hfilled : Node.Filled { tag, children, properties } bound :=
        ⟨hreferences, hbinds, hproper⟩
      have houtline : (Property.node tag children properties).outline =
          .node tag (Child.pair children (bound.reverse.map (·.2.outline))) :=
        hfilled.outline_eq
      rw [houtline, Outline.isResolved]
      apply Outline.itemsResolved_of_forall
      intro item hitem
      rcases Child.mem_pair hfilled.length_references hitem with ⟨text, rfl⟩ | ⟨r, o, ho, rfl⟩
      · rfl
      · obtain ⟨b, hb, rfl⟩ := List.mem_map.mp ho
        exact ih b (List.mem_reverse.mp hb)

/-! ## Print with another word -/

mutual
/-- The print of an outline with `word` for the value of a reference that stands
for nothing. -/
def Outline.printWith (word : String) : Outline → Printer → Printer
  | .node tag [], p => (p.word tag.heading).word " \x7b\x7d"
  | .node tag (item :: items), p =>
    (Outline.printItemsWith word (item :: items)
      ((p.word tag.heading).openBlock " \x7b")).closeBlock "\x7d"
  | .null, p => p.word "null"
  | .gap, p => p.word "<//>"
  | .list values, p =>
    ((p.char '[').separated "," (fun p write => write p)
      (Outline.printEachWith word values)).char ']'

def Outline.printItemWith (word : String) : OutlineItem → Printer → Printer
  | .literal text, p => p.word (Text.quote text)
  | .bound r value, p => value.printWith word (p.word (r.render ++ ": "))
  | .unbound r, p => (p.word (r.render ++ ": ")).word word

def Outline.printItemsWith (word : String) : List OutlineItem → Printer → Printer
  | [], p => p
  | item :: rest, p =>
    Outline.printItemsWith word rest (Outline.printItemWith word item p.newline)

def Outline.printEachWith (word : String) : List Outline → List (Printer → Printer)
  | [] => []
  | value :: rest => value.printWith word :: Outline.printEachWith word rest
end

mutual
theorem Outline.printWith_eq_print {word : String} (o : Outline) (p : Printer)
    (h : word = "<unbound>" ∨ o.isResolved = true) : o.printWith word p = o.print p := by
  cases o with
  | node tag items =>
      cases items with
      | nil => rfl
      | cons item items =>
          rw [printWith, print, Outline.printItemsWith_eq_printItems (item :: items) _ h]
  | null => rfl
  | gap => rfl
  | list values => rw [printWith, print, Outline.printEachWith_eq_printEach values h]

theorem Outline.printItemWith_eq_printItem {word : String} (item : OutlineItem) (p : Printer)
    (h : word = "<unbound>" ∨ Outline.itemResolved item = true) :
    Outline.printItemWith word item p = Outline.printItem item p := by
  cases item with
  | literal text => rfl
  | bound r value => exact Outline.printWith_eq_print value _ h
  | unbound r =>
      rcases h with rfl | h
      · rfl
      · cases h

theorem Outline.printItemsWith_eq_printItems {word : String} (items : List OutlineItem)
    (p : Printer) (h : word = "<unbound>" ∨ Outline.itemsResolved items = true) :
    Outline.printItemsWith word items p = Outline.printItems items p := by
  cases items with
  | nil => rfl
  | cons item rest =>
      rw [itemsResolved, Bool.and_eq_true] at h
      rw [printItemsWith, printItems,
        Outline.printItemWith_eq_printItem item _ (h.imp_right And.left),
        Outline.printItemsWith_eq_printItems rest _ (h.imp_right And.right)]

theorem Outline.printEachWith_eq_printEach {word : String} (values : List Outline)
    (h : word = "<unbound>" ∨ Outline.listResolved values = true) :
    Outline.printEachWith word values = Outline.printEach values := by
  cases values with
  | nil => rfl
  | cons value rest =>
      rw [listResolved, Bool.and_eq_true] at h
      have hvalue : value.printWith word = value.print :=
        funext fun p => Outline.printWith_eq_print value p (h.imp_right And.left)
      rw [printEachWith, printEach, hvalue,
        Outline.printEachWith_eq_printEach rest (h.imp_right And.right)]
end

namespace Builder

/-! ## Documents -/

theorem finish_eq_ok_iff {b : Builder} {document : Document} :
    b.finish = .ok document ↔
      b.state.segments = [] ∧ b.state.root = some document.root ∧
        document.doctype = b.state.doctype ∧ document.written = b.state.written := by
  obtain ⟨doctype, root, written⟩ := document
  unfold finish
  split
  · next hsegments =>
      rw [List.isEmpty_iff] at hsegments
      cases hroot : b.state.root with
      | none => simp
      | some n =>
          simp only [Except.ok.injEq, Document.mk.injEq, hsegments, Option.some.injEq, true_and]
          constructor
          · rintro ⟨rfl, rfl, rfl⟩
            exact ⟨rfl, rfl, rfl⟩
          · rintro ⟨rfl, rfl, rfl⟩
            exact ⟨rfl, rfl, rfl⟩
  · next hsegments =>
      rw [List.isEmpty_iff] at hsegments
      simp [hsegments]

/-- Whatever was asked for, the tree of a finished document is proper. -/
theorem proper_root_of_finish {requests : List Request} {document : Document}
    (h : (start.after requests).finish = .ok document) :
    (Property.ofNode document.root).Proper := by
  have hshaped := (matches_start.after requests).mirrors.shaped
  obtain ⟨bound, hfilled⟩ := hshaped.root_filled _ (finish_eq_ok_iff.mp h).2.1
  exact hfilled.proper_ofNode

/-- After any series of requests, a document that is finished has fitting slots in
every node, at any depth, and every reference there stands for a value.  Its print
is the same whatever word stands for a reference without one. -/
theorem slotsFit_of_finish {requests : List Request} {document : Document}
    (h : (start.after requests).finish = .ok document) :
    (∀ n : Node, n.Within document.root → n.SlotsFit ∧ n.outline.isResolved = true) ∧
      ∀ (word : String) (p : Printer),
        document.root.outline.printWith word p = document.root.print p := by
  have hproper := proper_root_of_finish h
  constructor
  · intro n hn
    have hwellFormed := hn.wellFormed (Property.proper_iff_wellFormed.mp hproper)
    exact ⟨hwellFormed.slotsFit.1,
      (Property.proper_iff_wellFormed.mpr hwellFormed).isResolved_outline⟩
  · intro word p
    exact Outline.printWith_eq_print _ p (Or.inr hproper.isResolved_outline)

/-- Puts the second of two items under a new node, after a rejected attempt and a
null that no reference waits for. -/
def itemMoved : List Request :=
  [.advance (.openNode (.typed "Root")), .advance (.reference (.array "items")), .advance .null,
    .advance (.reference (.array "items")), .advance (.openNode (.typed "Item")),
    .advance (.reference { name := "value" }), .advance .gap, .advance .close, .branch,
    .advance (.reference { name := "other" }), .reject, .advance .null, .branch, .advance .shift,
    .advance (.openNode (.typed "Group")), .bindAttribute "size" (.text "1"),
    .advance (.reference (.array "members")), .advance .gap, .advance .close, .accept,
    .write "done", .advance .close]

theorem slotsFit_of_finish_itemMoved : ∃ document : Document,
    (start.after itemMoved).finish = .ok document ∧
      document.root.referencesTo "items" = [.array "items", .array "items"] ∧
      document.root.SlotsFit ∧
      ∀ p, document.root.outline.printWith "nothing" p = document.root.print p := by
  have hfinished : ((start.after itemMoved).finish.map
      (·.root.referencesTo "items")).toOption = some [.array "items", .array "items"] := by
    decide +kernel
  cases hfinish : (start.after itemMoved).finish with
  | error e => simp [hfinish, Except.map, Except.toOption] at hfinished
  | ok document =>
      rw [hfinish] at hfinished
      obtain ⟨hnodes, hprint⟩ := slotsFit_of_finish hfinish
      exact ⟨document, rfl, Option.some.inj hfinished, (hnodes _ .self).1, hprint _⟩

end Builder

end Backtrack
