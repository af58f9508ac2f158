import Backtrack.Proofs.Tree.Resolve

/-!
Trees of which nothing is left but the types of the nodes, the children and the
values: their flags, languages and attributes are taken away.  Binding looks at no
tag, so what is left of a tree made by binding values is such a tree again, and its
outline is what is left of the outline.
-/

namespace Backtrack

def OpenTag.plain (tag : OpenTag) : OpenTag := { nodeType := tag.nodeType }

mutual
/-- The value with the types of its nodes as their only tags. -/
def Property.plain : Property → Property
  | .node tag children properties => .node tag.plain children (Property.plainEntries properties)
  | .null => .null
  | .gap => .gap
  | .list items => .list (Property.plainItems items)

def Property.plainEntries : List (String × Property) → List (String × Property)
  | [] => []
  | (name, value) :: rest => (name, value.plain) :: Property.plainEntries rest

def Property.plainItems : List Property → List Property
  | [] => []
  | value :: rest => value.plain :: Property.plainItems rest
end

mutual
/-- The outline with the types of its nodes as their only tags. -/
def Outline.plain : Outline → Outline
  | .node tag items => .node tag.plain (Outline.plainItems items)
  | .null => .null
  | .gap => .gap
  | .list values => .list (Outline.plainList values)

def Outline.plainItem : OutlineItem → OutlineItem
  | .literal text => .literal text
  | .bound r value => .bound r value.plain
  | .unbound r => .unbound r

def Outline.plainItems : List OutlineItem → List OutlineItem
  | [] => []
  | item :: rest => Outline.plainItem item :: Outline.plainItems rest

def Outline.plainList : List Outline → List Outline
  | [] => []
  | value :: rest => value.plain :: Outline.plainList rest
end

namespace Property

def plainEntry (entry : String × Property) : String × Property := (entry.1, entry.2.plain)

theorem plainEntries_eq_map (entries : List (String × Property)) :
    plainEntries entries = entries.map plainEntry := by
  induction entries with
  | nil => rfl
  | cons entry rest ih =>
      rw [plainEntries, ih]
      rfl

theorem plainItems_eq_map (items : List Property) : plainItems items = items.map plain := by
  induction items with
  | nil => rfl
  | cons value rest ih =>
      rw [plainItems, ih]
      rfl

theorem plain_list (items : List Property) : (list items).plain = .list (items.map plain) := by
  rw [plain, plainItems_eq_map]

theorem isList_plain (value : Property) : value.plain.isList = value.isList := by
  cases value <;> rfl

end Property

namespace Node

/-- The node with the types of all nodes in it as their only tags. -/
def plain (n : Node) : Node :=
  { tag := n.tag.plain, children := n.children, properties := n.properties.map Property.plainEntry }

theorem plain_ofNode (n : Node) : (Property.ofNode n).plain = .ofNode n.plain := by
  rw [Property.ofNode, Property.plain, Property.plainEntries_eq_map]
  rfl

/-! ## Binding looks at no tag -/

theorem lookup_plain (ps : List (String × Property)) (name : String) :
    (ps.map Property.plainEntry).lookup name = (ps.lookup name).map Property.plain := by
  induction ps with
  | nil => rfl
  | cons entry rest ih =>
      obtain ⟨key, value⟩ := entry
      rw [List.map_cons, Property.plainEntry, List.lookup_cons, List.lookup_cons, ih]
      cases name == key <;> rfl

theorem updateList_plain (name : String) (value : Property) (ps : List (String × Property)) :
    (updateList name (· ++ [value]) ps).map Property.plainEntry =
      updateList name (· ++ [value.plain]) (ps.map Property.plainEntry) := by
  induction ps with
  | nil => rfl
  | cons entry rest ih =>
      obtain ⟨key, old⟩ := entry
      by_cases hkey : (key == name) = true
      · cases old <;>
          simp [updateList, Property.plainEntry, Property.plain, Property.plainItems_eq_map, hkey]
      · simp [updateList, Property.plainEntry, hkey, ih]

def plainBinding (b : Reference × Property) : Reference × Property := (b.1, b.2.plain)

theorem Binds.plain {bound : List (Reference × Property)} {ps : List (String × Property)}
    (h : Binds bound ps) : Binds (bound.map plainBinding) (ps.map Property.plainEntry) := by
  have hnone : ∀ {ps : List (String × Property)} {name : String}, ps.lookup name = none →
      (ps.map Property.plainEntry).lookup name = none := by
    intro ps name hlookup
    rw [lookup_plain, hlookup, Option.map_none]
  induction h with
  | nil => exact .nil
  | @single _ _ r value _ hsingle hfree hvalue ih =>
      rw [List.map_append]
      exact .single ih hsingle (hnone hfree) (by rw [Property.isList_plain, hvalue])
  | @first _ _ r value _ harray hfree ih =>
      rw [List.map_append]
      have hentry : Property.plainEntry (r.name, .list [value]) = (r.name, .list [value.plain]) :=
        congrArg (Prod.mk r.name) (Property.plain_list [value])
      rw [List.map_singleton, hentry]
      exact .first ih harray (hnone hfree)
  | @next _ entries r value items _ harray hitems ih =>
      have hlist : (entries.map Property.plainEntry).lookup r.name =
          some (.list (items.map Property.plain)) := by
        rw [lookup_plain, hitems, Option.map_some, Property.plain_list]
      rw [updateList_plain]
      exact .next ih harray hlist

end Node

/-! ## The outline of a plain tree -/

theorem Outline.plainItems_pair (children : List Child) (values : List Outline) :
    Outline.plainItems (Child.pair children values) =
      Child.pair children (values.map Outline.plain) := by
  induction children generalizing values with
  | nil => rfl
  | cons child rest ih =>
      cases child with
      | literal text => simp [Child.pair, plainItems, plainItem, ih]
      | reference r =>
          cases values with
          | nil => simpa [Child.pair, plainItems, plainItem] using ih []
          | cons value values => simp [Child.pair, plainItems, plainItem, ih]

namespace Property

theorem Proper.plain {value : Property} (h : value.Proper) : value.plain.Proper := by
  induction h with
  | null => exact .null
  | gap => exact .gap
  | @node tag children properties bound hreferences hbinds hproper ih =>
      rw [Property.plain, plainEntries_eq_map]
      refine .node (bound.map Node.plainBinding) ?_ hbinds.plain ?_
      · rw [hreferences, List.map_map]
        rfl
      · intro b hb
        obtain ⟨binding, hbinding, rfl⟩ := List.mem_map.mp hb
        exact ih binding hbinding

theorem Proper.outline_plain {value : Property} (h : value.Proper) :
    value.plain.outline = value.outline.plain := by
  induction h with
  | null => rfl
  | gap => rfl
  | @node tag children properties bound hreferences hbinds hproper ih =>
      have hfilled : Node.Filled { tag, children, properties } bound :=
        ⟨hreferences, hbinds, hproper⟩
      have houtline : (Property.node tag children properties).outline =
          .node tag (Child.pair children (bound.reverse.map (·.2.outline))) := hfilled.outline_eq
      have hplain : Node.Filled ⟨tag.plain, children, properties.map plainEntry⟩
          (bound.map Node.plainBinding) := by
        refine ⟨?_, hbinds.plain, ?_⟩
        · rw [List.map_map]
          exact hreferences
        · intro b hb
          obtain ⟨binding, hbinding, rfl⟩ := List.mem_map.mp hb
          exact (hproper binding hbinding).plain
      have houtlines : (bound.map Node.plainBinding).map (·.2.outline) =
          (bound.map (·.2.outline)).map Outline.plain := by
        rw [List.map_map, List.map_map]
        exact List.map_congr_left ih
      rw [houtline, Outline.plain, Outline.plainItems_pair, Property.plain, plainEntries_eq_map,
        List.map_reverse, List.map_reverse, ← houtlines, ← List.map_reverse]
      exact hplain.outline_eq

end Property

end Backtrack
