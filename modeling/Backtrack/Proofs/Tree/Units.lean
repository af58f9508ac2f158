import Backtrack.Input.Buffer
import Backtrack.Proofs.Tree.Resolve

/-!
The units of a tree: its literals, character by character, and its gaps, in the
order of the children.  The references resolve to the values in the order in
which they were bound, so binding a value to the last reference puts its units at
the end.
-/

namespace Backtrack

mutual
def Outline.units : Outline → List Symbol
  | .node _ items => Outline.itemsUnits items
  | .null => []
  | .gap => [.gap]
  | .list _ => []

def Outline.itemUnits : OutlineItem → List Symbol
  | .literal text => Symbol.ofText text
  | .bound _ value => value.units
  | .unbound _ => []

def Outline.itemsUnits : List OutlineItem → List Symbol
  | [] => []
  | item :: rest => Outline.itemUnits item ++ Outline.itemsUnits rest
end

def Property.units (value : Property) : List Symbol := value.outline.units

def Node.units (n : Node) : List Symbol := n.outline.units

/-! ## Text -/

theorem Symbol.filterMap_char?_ofText (text : String) :
    (Symbol.ofText text).filterMap Symbol.char? = text.toList := by
  rw [ofText, List.filterMap_map]
  exact List.filterMap_some

mutual
/-- The text of a tree is its units without the gaps. -/
theorem Outline.toList_text (o : Outline) : o.text.toList = o.units.filterMap Symbol.char? := by
  cases o with
  | node tag items => exact Outline.toList_itemsText items
  | null => rfl
  | gap => rfl
  | list values => rfl

theorem Outline.toList_itemText (item : OutlineItem) :
    (Outline.itemText item).toList = (Outline.itemUnits item).filterMap Symbol.char? := by
  cases item with
  | literal text => exact (Symbol.filterMap_char?_ofText text).symm
  | bound r value => exact Outline.toList_text value
  | unbound r => rfl

theorem Outline.toList_itemsText (items : List OutlineItem) :
    (Outline.itemsText items).toList = (Outline.itemsUnits items).filterMap Symbol.char? := by
  cases items with
  | nil => rfl
  | cons item rest =>
      rw [Outline.itemsText, Outline.itemsUnits, String.toList_append, List.filterMap_append,
        Outline.toList_itemText item, Outline.toList_itemsText rest]
end

theorem Node.toList_text (n : Node) : n.text.toList = n.units.filterMap Symbol.char? :=
  n.outline.toList_text

/-! ## Walking the children -/

/-- The units of the children, when the references stand for `values` in turn. -/
def Child.walk : List Child → List (List Symbol) → List Symbol
  | [], _ => []
  | .literal text :: rest, values => Symbol.ofText text ++ walk rest values
  | .reference _ :: rest, [] => walk rest []
  | .reference _ :: rest, value :: values => value ++ walk rest values

namespace Child

/-- Only as many values are used as there are references. -/
theorem walk_append (before after : List Child) (values : List (List Symbol)) :
    walk (before ++ after) values =
      walk before (values.take (before.filterMap reference?).length) ++
        walk after (values.drop (before.filterMap reference?).length) := by
  induction before generalizing values with
  | nil => rfl
  | cons child rest ih =>
      cases child with
      | literal text =>
          simp only [List.cons_append, walk, ih, List.append_assoc, List.filterMap_cons,
            reference?]
      | reference r =>
          cases values with
          | nil => simpa [walk, reference?] using ih []
          | cons value values =>
              simp only [List.cons_append, walk, ih, List.append_assoc, List.filterMap_cons,
                reference?, List.length_cons, List.take_succ_cons, List.drop_succ_cons]

theorem walk_of_forall_eq_empty {children : List Child} (h : ∀ c ∈ children, c = .literal "")
    (values : List (List Symbol)) : walk children values = [] := by
  induction children with
  | nil => rfl
  | cons child rest ih =>
      rw [List.forall_mem_cons] at h
      rw [h.1, walk, ih h.2]
      rfl

end Child

/-- Whether no text follows the last reference. -/
def Node.endsInReference (n : Node) : Bool :=
  (n.children.reverse.takeWhile (·.reference?.isNone)).all (· == .literal "")

namespace Node

theorem exists_of_endsInReference {n : Node} (h : n.endsInReference = true)
    (hreferences : n.references ≠ []) :
    ∃ before r after, n.children = before ++ .reference r :: after ∧
      ∀ c ∈ after, c = .literal "" := by
  have hlist : ∀ l : List Child, (l.takeWhile (·.reference?.isNone)).all (· == .literal "") = true →
      l.filterMap Child.reference? ≠ [] →
      ∃ after r before, l = after ++ .reference r :: before ∧ ∀ c ∈ after, c = .literal "" := by
    intro l
    induction l with
    | nil =>
        intro _ hne
        exact absurd rfl hne
    | cons child rest ih =>
        intro hall hne
        cases child with
        | reference r => exact ⟨[], r, rest, rfl, by simp⟩
        | literal text =>
            simp only [Child.reference?, Option.isNone_none, List.takeWhile_cons_of_pos,
              List.all_cons, Bool.and_eq_true, beq_iff_eq] at hall
            rw [List.filterMap_cons_none rfl] at hne
            obtain ⟨after, r, before, rfl, hafter⟩ := ih hall.2 hne
            exact ⟨.literal text :: after, r, before, rfl,
              List.forall_mem_cons.mpr ⟨hall.1, hafter⟩⟩
  have hne : n.children.reverse.filterMap Child.reference? ≠ [] := by
    rw [List.filterMap_reverse]
    simpa [references] using hreferences
  obtain ⟨after, r, before, hreverse, hafter⟩ := hlist n.children.reverse h hne
  refine ⟨before.reverse, r, after.reverse, ?_, fun c hc => hafter c (List.mem_reverse.mp hc)⟩
  rw [← n.children.reverse_reverse, hreverse]
  simp

end Node

theorem Outline.itemsUnits_pair (children : List Child) (values : List Outline) :
    Outline.itemsUnits (Child.pair children values) =
      Child.walk children (values.map Outline.units) := by
  induction children generalizing values with
  | nil => rfl
  | cons child rest ih =>
      cases child with
      | literal text => simp [Child.pair, Child.walk, itemsUnits, itemUnits, ih]
      | reference r =>
          cases values with
          | nil => simpa [Child.pair, Child.walk, itemsUnits, itemUnits] using ih []
          | cons value values => simp [Child.pair, Child.walk, itemsUnits, itemUnits, ih]

namespace Node

/-! ## Units of a node -/

theorem Filled.units_eq {n : Node} {bound : List (Reference × Property)} (h : n.Filled bound) :
    n.units = Child.walk n.children (bound.reverse.map (·.2.units)) := by
  rw [Node.units, h.outline_eq, Outline.units, Outline.itemsUnits_pair, List.map_map]
  rfl

theorem Awaiting.units_eq {n : Node} {r : Reference} {bound : List (Reference × Property)}
    (h : n.Awaiting r bound) :
    n.units = Child.walk n.children (bound.reverse.map (·.2.units)) := by
  rw [Node.units, h.outline_eq, Outline.units, Outline.itemsUnits_pair, List.map_map]
  rfl

theorem Filled.units_addLiteral {n : Node} {bound : List (Reference × Property)}
    (h : n.Filled bound) (text : String) :
    (n.addChild (.literal text)).units = n.units ++ Symbol.ofText text := by
  rw [(h.addLiteral text).units_eq, h.units_eq]
  have hlength : (n.children.filterMap Child.reference?).length = bound.reverse.length := by
    have hreferences := congrArg List.length h.references
    simpa [Node.references] using hreferences
  rw [addChild, Child.walk_append, hlength, List.take_of_length_le (by simp)]
  simp [Child.walk]

theorem Filled.units_addReference {n : Node} {r : Reference}
    {bound : List (Reference × Property)} (h : n.Filled bound)
    (hawaiting : (n.addChild (.reference r)).Awaiting r bound) :
    (n.addChild (.reference r)).units = n.units := by
  rw [hawaiting.units_eq, h.units_eq]
  have hlength : (n.children.filterMap Child.reference?).length = bound.reverse.length := by
    have hreferences := congrArg List.length h.references
    simpa [Node.references] using hreferences
  rw [addChild, Child.walk_append, hlength, List.take_of_length_le (by simp),
    List.drop_of_length_le (by simp)]
  simp [Child.walk]

/-- A value bound to the last reference comes last, unless text stands behind the
reference. -/
theorem Filled.units_eq_append {n m : Node} {r : Reference} {value : Property}
    {bound : List (Reference × Property)} (h : n.Filled ((r, value) :: bound))
    (hawaiting : m.Awaiting r bound) (hchildren : n.children = m.children)
    (hend : m.endsInReference = true) : n.units = m.units ++ value.units := by
  have hne : m.references ≠ [] := by simp [hawaiting.references]
  obtain ⟨before, r', after, hsplit, hafter⟩ := exists_of_endsInReference hend hne
  have hlength : (before.filterMap Child.reference?).length = bound.reverse.length := by
    have hnone : after.filterMap Child.reference? = [] := by
      rw [List.filterMap_eq_nil_iff]
      intro c hc
      rw [hafter c hc]
      rfl
    have hreferences := congrArg List.length hawaiting.references
    rw [Node.references, hsplit] at hreferences
    simpa [Child.reference?, hnone] using hreferences
  have hvalues : (bound.reverse.map (·.2.units)).length = bound.reverse.length := by simp
  rw [h.units_eq, hawaiting.units_eq, hchildren, hsplit, Child.walk_append, Child.walk_append,
    hlength, List.reverse_cons, List.map_append, ← hvalues, List.take_left, List.drop_left,
    List.take_length, List.drop_length]
  simp [Child.walk, Child.walk_of_forall_eq_empty hafter]

end Node

end Backtrack
