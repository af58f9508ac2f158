import Backtrack.Error
import Backtrack.Tag.Terminal

/-!
Nodes of the concrete syntax tree.  A node keeps its children in source order,
literals and references, and beside them the values bound through the
references, in the order they were first bound.  Each way of binding a value
has an inverse, which gives back both the value and the node as it was.
-/

namespace Backtrack

inductive Child where
  | literal (text : String)
  | reference (r : Reference)
  deriving DecidableEq, Repr

/-- A value bound to a slot.  A list holds the values bound through an array
reference, in binding order. -/
inductive Property where
  | node (tag : OpenTag) (children : List Child) (properties : List (String × Property))
  | null
  | gap
  | list (items : List Property)
  deriving Repr

instance : Inhabited Property := ⟨.null⟩

structure Node where
  tag : OpenTag
  children : List Child := []
  /-- Bound values, in the order of first binding. -/
  properties : List (String × Property) := []
  deriving Repr

namespace Property

def ofNode (n : Node) : Property := .node n.tag n.children n.properties

def node? : Property → Option Node
  | .node tag children properties => some { tag, children, properties }
  | _ => none

@[simp] theorem node?_ofNode (n : Node) : (ofNode n).node? = some n := rfl

end Property

/-- How binding a value changed the properties of a node. -/
inductive Bound where
  /-- A new entry was added. -/
  | created
  /-- The value went to the end of an existing list. -/
  | appended
  deriving DecidableEq, Repr

/-- How taking a value out changed the properties of a node. -/
inductive Unbound where
  /-- The entry at this position was removed. -/
  | removed (index : Nat)
  /-- The value was the last of its list. -/
  | popped
  deriving DecidableEq, Repr

namespace Node

def property? (n : Node) (name : String) : Option Property := n.properties.lookup name

def hasProperty (n : Node) (name : String) : Bool := (n.property? name).isSome

/-- Change the list bound to `name`.  Entries that are no list stay as they
are. -/
def updateList (name : String) (f : List Property → List Property) :
    List (String × Property) → List (String × Property)
  | [] => []
  | (k, v) :: rest =>
    if k == name then
      match v with
      | .list items => (k, .list (f items)) :: rest
      | v => (k, v) :: rest
    else (k, v) :: updateList name f rest

def addChild (n : Node) (c : Child) : Node := { n with children := n.children ++ [c] }

def dropChild (n : Node) : Node := { n with children := n.children.dropLast }

/-- A slot is free if nothing is bound to it yet, or if it is an array slot that
already is a list. -/
def checkBindable (n : Node) (r : Reference) : Except BuildError Unit :=
  match n.property? r.name with
  | none => .ok ()
  | some (.list _) => if r.isArray then .ok () else .error (.propertyBound r.name)
  | some _ => .error (.propertyBound r.name)

def bind (n : Node) (r : Reference) (value : Property) : Except BuildError (Node × Bound) := do
  n.checkBindable r
  if r.isArray then
    match n.property? r.name with
    | some (.list _) =>
      return ({ n with properties := updateList r.name (· ++ [value]) n.properties }, .appended)
    | _ => return ({ n with properties := n.properties ++ [(r.name, .list [value])] }, .created)
  else
    return ({ n with properties := n.properties ++ [(r.name, value)] }, .created)

/-- The entry for `name` that comes last, with the entries around it. -/
def splitLast (name : String) (entries : List (String × Property)) :
    Option (Property × List (String × Property)) :=
  match entries.reverse.span (fun e => e.1 != name) with
  | (after, (_, v) :: before) => some (v, before.reverse ++ after.reverse)
  | _ => none

def lastItem? : Property → Option Property
  | .list items => items.getLast?
  | _ => none

def revertBind (n : Node) (r : Reference) : Bound → Option (Property × Node)
  | .appended => do
    let value ← (n.property? r.name).bind lastItem?
    some (value, { n with properties := updateList r.name List.dropLast n.properties })
  | .created => do
    let (value, properties) ← splitLast r.name n.properties
    let n := { n with properties }
    match value with
    | .list items => if r.isArray then items.getLast?.map (·, n) else some (value, n)
    | value => some (value, n)

/-- Take out the value bound last through `r`. -/
def unbind (n : Node) (r : Reference) : Option (Property × Node × Unbound) :=
  if r.isArray then do
    let value ← (n.property? r.name).bind lastItem?
    some (value, { n with properties := updateList r.name List.dropLast n.properties }, .popped)
  else
    match n.properties.span (fun e => e.1 != r.name) with
    | (before, (_, v) :: after) =>
      some (v, { n with properties := before ++ after }, .removed before.length)
    | _ => none

def revertUnbind (n : Node) (r : Reference) (value : Property) : Unbound → Node
  | .removed index =>
    { n with properties :=
        n.properties.take index ++ (r.name, value) :: n.properties.drop index }
  | .popped => { n with properties := updateList r.name (· ++ [value]) n.properties }

end Node

end Backtrack
