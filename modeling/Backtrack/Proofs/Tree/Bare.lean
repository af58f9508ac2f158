import Backtrack.Tree.Document
import Mathlib.Data.List.Basic
import Mathlib.Data.List.TakeDrop

/-!
Trees without their attributes.  Binding a value to a slot and taking it out of it never
look at an attribute, so they do the same to a tree and to what is left of it when all
attributes are taken away.
-/

namespace Backtrack

def OpenTag.bare (tag : OpenTag) : OpenTag := { tag with attributes := ∅ }

def Terminal.bare : Terminal → Terminal
  | .openNode tag => .openNode tag.bare
  | t => t

mutual
def Property.bare : Property → Property
  | .node tag children properties => .node tag.bare children (Property.bareEntries properties)
  | .null => .null
  | .gap => .gap
  | .list items => .list (Property.bareItems items)

def Property.bareEntries : List (String × Property) → List (String × Property)
  | [] => []
  | (name, value) :: rest => (name, value.bare) :: Property.bareEntries rest

def Property.bareItems : List Property → List Property
  | [] => []
  | value :: rest => value.bare :: Property.bareItems rest
end

namespace Property

def bareEntry (entry : String × Property) : String × Property := (entry.1, entry.2.bare)

theorem bareEntries_eq_map (entries : List (String × Property)) :
    bareEntries entries = entries.map bareEntry := by
  induction entries with
  | nil => rfl
  | cons entry rest ih =>
      rw [bareEntries, ih]
      rfl

theorem bareItems_eq_map (items : List Property) : bareItems items = items.map bare := by
  induction items with
  | nil => rfl
  | cons value rest ih =>
      rw [bareItems, ih]
      rfl

theorem bare_list (items : List Property) : (list items).bare = .list (items.map bare) := by
  rw [bare, bareItems_eq_map]

end Property

namespace Node

def bare (n : Node) : Node :=
  { tag := n.tag.bare, children := n.children, properties := n.properties.map Property.bareEntry }

theorem bare_ofNode (n : Node) : (Property.ofNode n).bare = .ofNode n.bare := by
  rw [Property.ofNode, Property.bare, Property.bareEntries_eq_map]
  rfl

theorem property?_bare (n : Node) (name : String) :
    n.bare.property? name = (n.property? name).map Property.bare := by
  unfold property? bare
  induction n.properties with
  | nil => rfl
  | cons entry rest ih =>
      obtain ⟨key, value⟩ := entry
      dsimp only at ih
      rw [List.map_cons, Property.bareEntry, List.lookup_cons, List.lookup_cons, ih]
      cases name == key <;> rfl

theorem hasProperty_bare (n : Node) (name : String) :
    n.bare.hasProperty name = n.hasProperty name := by
  rw [hasProperty, hasProperty, property?_bare, Option.isSome_map]

theorem checkBindable_bare (n : Node) (r : Reference) :
    n.bare.checkBindable r = n.checkBindable r := by
  unfold checkBindable
  rw [property?_bare]
  rcases n.property? r.name with _ | (_ | _ | _ | items)
  · rfl
  · rfl
  · rfl
  · rfl
  · rw [Option.map_some, Property.bare_list]

theorem updateList_bare {f g : List Property → List Property} (name : String)
    (hfg : ∀ items, (f items).map Property.bare = g (items.map Property.bare))
    (entries : List (String × Property)) :
    (updateList name f entries).map Property.bareEntry =
      updateList name g (entries.map Property.bareEntry) := by
  induction entries with
  | nil => rfl
  | cons entry rest ih =>
      obtain ⟨key, value⟩ := entry
      by_cases hkey : (key == name) = true
      · cases value <;>
          simp [updateList, Property.bareEntry, Property.bare, Property.bareItems_eq_map, hkey, hfg]
      · simp only [updateList, List.map_cons, Property.bareEntry, hkey, Bool.false_eq_true,
          if_false]
        exact congrArg _ ih

theorem bind_bare (n : Node) (r : Reference) (value : Property) :
    n.bare.bind r value.bare = (n.bind r value).map fun bound => (bound.1.bare, bound.2) := by
  have happend := updateList_bare (f := (· ++ [value])) (g := (· ++ [value.bare])) r.name
    (fun items => by rw [List.map_append]; rfl) n.properties
  unfold bind
  rw [checkBindable_bare, property?_bare]
  cases n.checkBindable r with
  | error error => rfl
  | ok _ =>
      cases r.isArray with
      | false =>
          simp [bare, Property.bareEntry, Bind.bind, Except.bind, Except.map, pure, Except.pure]
      | true =>
          rcases n.property? r.name with _ | (_ | _ | _ | items) <;>
            simp [bare, Property.bareEntry, Property.bare, Property.bareItems_eq_map, happend,
              Bind.bind, Except.bind, Except.map, pure, Except.pure]

theorem lastItem?_bare (value : Property) :
    lastItem? value.bare = (lastItem? value).map Property.bare := by
  cases value with
  | list items => rw [Property.bare_list, lastItem?, lastItem?, List.getLast?_map]
  | _ => rfl

theorem unbind_bare (n : Node) (r : Reference) :
    n.bare.unbind r = (n.unbind r).map fun taken => (taken.1.bare, taken.2.1.bare, taken.2.2) := by
  have hdrop := updateList_bare (f := List.dropLast) (g := List.dropLast) r.name
    (fun items => List.map_dropLast) n.properties
  unfold unbind
  cases r.isArray with
  | true =>
      have hlast : (n.bare.property? r.name).bind lastItem? =
          ((n.property? r.name).bind lastItem?).map Property.bare := by
        rw [property?_bare]
        cases n.property? r.name with
        | none => rfl
        | some value => exact lastItem?_bare value
      simp only [if_true, hlast]
      cases (n.property? r.name).bind lastItem? with
      | none => rfl
      | some value =>
          show some (value.bare, _, _) = some (value.bare, _, _)
          rw [bare, bare, hdrop]
  | false =>
      have hnames : (fun e : String × Property => e.1 != r.name) ∘ Property.bareEntry =
          fun e => e.1 != r.name := rfl
      simp only [Bool.false_eq_true, if_false, List.span_eq_takeWhile_dropWhile, bare,
        List.takeWhile_map, List.dropWhile_map, hnames]
      generalize n.properties.dropWhile (fun e : String × Property => e.1 != r.name) = after
      cases after with
      | nil => rfl
      | cons entry after => simp [Property.bareEntry]

end Node

def Document.bare (d : Document) : Document := { d with root := d.root.bare }

end Backtrack
