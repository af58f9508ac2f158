import Backtrack.Json.Tag
import Backtrack.Tree.Document

/-!
Stored form of trees.  Properties hold nodes that hold properties, so the two are
read and written together, and reading ends because a part is smaller than the
whole.
-/

namespace Backtrack

open Codec

instance : Codec Child where
  encode
    | .literal text => .obj [("Literal", encode text)]
    | .reference r => .obj [("Reference", encode r)]
  decode? j := do
    match ← j.choice? with
    | ("Literal", body) => (field? body).map .literal
    | ("Reference", body) => (field? body).map .reference
    | _ => none

mutual
def Property.toJson : Property → Json
  | .node tag children properties =>
    .obj [("Node", .obj
      [("tag", encode tag), ("children", encode children),
        ("properties", .arr (Property.bindingsToJson properties))])]
  | .null => .str "Null"
  | .gap => .str "Gap"
  | .list items => .obj [("List", .arr (Property.listToJson items))]

def Property.bindingsToJson : List (String × Property) → List Json
  | [] => []
  | (name, value) :: rest => .arr [.str name, value.toJson] :: Property.bindingsToJson rest

def Property.listToJson : List Property → List Json
  | [] => []
  | value :: rest => value.toJson :: Property.listToJson rest
end

def Node.toJson (n : Node) : Json := .obj
  [("tag", encode n.tag), ("children", encode n.children),
    ("properties", .arr (Property.bindingsToJson n.properties))]

mutual
def Property.ofJson? (j : Json) : Option Property :=
  match j with
  | .str "Null" => some .null
  | .str "Gap" => some .gap
  | .obj [("Null", .null)] => some .null
  | .obj [("Gap", .null)] => some .gap
  | .obj [("Node", body)] => (Node.ofJson? body).map Property.ofNode
  | .obj [("List", .arr items)] => (Property.listOfJson? items).map .list
  | _ => none
termination_by sizeOf j

def Property.listOfJson? (items : List Json) : Option (List Property) :=
  match items with
  | [] => some []
  | item :: rest => do
    let value ← Property.ofJson? item
    let values ← Property.listOfJson? rest
    return value :: values
termination_by sizeOf items

def Property.bindingsOfJson? (items : List Json) : Option (List (String × Property)) :=
  match items with
  | [] => some []
  | .arr [.str name, body] :: rest => do
    let value ← Property.ofJson? body
    let values ← Property.bindingsOfJson? rest
    return (name, value) :: values
  | _ :: _ => none
termination_by sizeOf items

def Node.ofJson? (j : Json) : Option Node :=
  match h : j.fields? ["tag", "children", "properties"] with
  | some [tag, children, some (.arr properties)] => do
    have : sizeOf (Json.arr properties) < sizeOf j := Json.sizeOf_lt_of_fields? h (by simp)
    let tag ← field? tag
    let children ← field? children
    let properties ← Property.bindingsOfJson? properties
    return { tag, children, properties }
  | _ => none
termination_by sizeOf j
decreasing_by
  simp at this
  omega
end

instance : Codec Property := ⟨Property.toJson, Property.ofJson?⟩

instance : Codec Node := ⟨Node.toJson, Node.ofJson?⟩

instance : Codec Document where
  encode d := .obj
    [("doctype", encode d.doctype), ("root", encode d.root), ("written", encode d.written)]
  decode? j :=
    match j.fields? ["doctype", "root", "written"] with
    | some [doctype, root, written] => do
      return {
        doctype := ← optionalField? doctype
        root := ← field? root
        written := ← field? written }
    | _ => none

end Backtrack
