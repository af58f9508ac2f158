import Backtrack.Json.Basic
import Backtrack.Tag.Terminal

/-!
Stored form of tags and terminals.
-/

namespace Backtrack

open Codec

instance : Codec Value where
  encode
    | .bool b => .obj [("Bool", .bool b)]
    | .text s => .obj [("String", .str s)]
  decode?
    | .obj [("Bool", .bool b)] => some (.bool b)
    | .obj [("String", .str s)] => some (.text s)
    | _ => none

/-- A map is an object; members with the same key are overridden in order. -/
instance : Codec Attributes where
  encode attributes := .obj (attributes.entries.map fun (key, value) => (key, encode value))
  decode?
    | .obj members => do
      let entries ← members.mapM fun (key, j) => (decode? j).map (key, ·)
      return Attributes.ofList entries
    | _ => none

instance : Codec NodeFlags where
  encode flags := .obj
    [("token", encode flags.token), ("trivia", encode flags.trivia),
      ("escape", encode flags.escape)]
  decode? j :=
    match j.fields? ["token", "trivia", "escape"] with
    | some [token, trivia, escape] => do
      return {
        token := ← field? token
        trivia := ← field? trivia
        escape := ← field? escape }
    | _ => none

instance : Codec Reference where
  encode r := .obj [("name", encode r.name), ("is_array", encode r.isArray)]
  decode? j :=
    match j.fields? ["name", "is_array"] with
    | some [name, isArray] => do
      return { name := ← field? name, isArray := ← field? isArray }
    | _ => none

instance : Codec OpenTag where
  encode tag := .obj
    [("node_type", encode tag.nodeType), ("flags", encode tag.flags),
      ("language", encode tag.language), ("attributes", encode tag.attributes)]
  decode? j :=
    match j.fields? ["node_type", "flags", "language", "attributes"] with
    | some [nodeType, flags, language, attributes] => do
      return {
        nodeType := ← optionalField? nodeType
        flags := ← field? flags
        language := ← optionalField? language
        attributes := ← field? attributes }
    | _ => none

instance : Codec DoctypeTag where
  encode tag := .obj [("version", encode tag.version), ("attributes", encode tag.attributes)]
  decode? j :=
    match j.fields? ["version", "attributes"] with
    | some [version, attributes] => do
      return { version := ← field? version, attributes := ← field? attributes }
    | _ => none

instance : Codec Terminal where
  encode
    | .doctype tag => .obj [("Doctype", encode tag)]
    | .openNode tag => .obj [("Open", encode tag)]
    | .close => .str "Close"
    | .literal text => .obj [("Literal", encode text)]
    | .gap => .str "Gap"
    | .shift => .str "Shift"
    | .reference r => .obj [("Reference", encode r)]
    | .null => .str "Null"
  decode? j := do
    match ← j.choice? with
    | ("Doctype", body) => (field? body).map .doctype
    | ("Open", body) => (field? body).map .openNode
    | ("Close", body) => if Json.isBare body then some .close else none
    | ("Literal", body) => (field? body).map .literal
    | ("Gap", body) => if Json.isBare body then some .gap else none
    | ("Shift", body) => if Json.isBare body then some .shift else none
    | ("Reference", body) => (field? body).map .reference
    | ("Null", body) => if Json.isBare body then some .null else none
    | _ => none

end Backtrack
