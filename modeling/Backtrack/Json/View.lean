import Backtrack.Config
import Backtrack.Instruction
import Backtrack.Json.Tag
import Backtrack.Region
import Backtrack.Tokenizer

/-!
Stored form of frames, regions, tokens, views and settings.
-/

namespace Backtrack

open Codec

instance : Codec FrameId where
  encode id := encode id.index
  decode? j := (decode? j).map FrameId.mk

instance : Codec PathId where
  encode id := encode id.index
  decode? j := (decode? j).map PathId.mk

instance : Codec Status where
  encode
    | .suspended => .str "Suspended"
    | .active => .str "Active"
    | .accepted => .str "Accepted"
    | .rejected => .str "Rejected"
  decode? j := do
    let (name, body) ← j.choice?
    if !Json.isBare body then none
    match name with
    | "Suspended" => some .suspended
    | "Active" => some .active
    | "Accepted" => some .accepted
    | "Rejected" => some .rejected
    | _ => none

instance : Codec Production where
  encode
    | .token => .str "Token"
    | .node => .str "Node"
  decode? j := do
    let (name, body) ← j.choice?
    if !Json.isBare body then none
    match name with
    | "Token" => some .token
    | "Node" => some .node
    | _ => none

instance : Codec Span where
  encode span := .obj [("name", encode span.name), ("guard", encode span.guard)]
  decode? j :=
    match j.fields? ["name", "guard"] with
    | some [name, guard] => do
      return { name := ← field? name, guard := ← optionalField? guard }
    | _ => none

instance : Codec BalancedEntry where
  encode entry := .obj
    [("node_type", encode entry.nodeType), ("closer", encode entry.closer),
      ("pushed_span", encode entry.pushedSpan)]
  decode? j :=
    match j.fields? ["node_type", "closer", "pushed_span"] with
    | some [nodeType, closer, pushedSpan] => do
      return {
        nodeType := ← field? nodeType
        closer := ← field? closer
        pushedSpan := ← field? pushedSpan }
    | _ => none

instance : Codec Token where
  encode token := .obj [("node_type", encode token.nodeType), ("text", encode token.text)]
  decode? j :=
    match j.fields? ["node_type", "text"] with
    | some [nodeType, text] => do
      return { nodeType := ← field? nodeType, text := ← field? text }
    | _ => none

instance : Codec StateView where
  encode v := .obj
    [("id", encode v.id), ("status", encode v.status), ("depth", encode v.depth),
      ("parent", encode v.parent), ("lexical_context", encode v.lexicalContext),
      ("spans", encode v.spans), ("balanced", encode v.balanced), ("offset", encode v.offset),
      ("holding", encode v.holding), ("done", encode v.done), ("language", encode v.language),
      ("node_type", encode v.nodeType), ("path_depth", encode v.pathDepth),
      ("last_result", encode v.lastResult)]
  decode? j :=
    match j.fields? ["id", "status", "depth", "parent", "lexical_context", "spans", "balanced",
      "offset", "holding", "done", "language", "node_type", "path_depth", "last_result"] with
    | some [id, status, depth, parent, context, spans, balanced, offset, holding, done, language,
        nodeType, pathDepth, lastResult] => do
      return {
        id := ← field? id
        status := ← field? status
        depth := ← field? depth
        parent := ← optionalField? parent
        lexicalContext := ← field? context
        spans := ← field? spans
        balanced := ← field? balanced
        offset := ← field? offset
        holding := ← field? holding
        done := ← field? done
        language := ← optionalField? language
        nodeType := ← optionalField? nodeType
        pathDepth := ← optionalField? pathDepth
        lastResult := ← optionalField? lastResult }
    | _ => none

/-- The name of the outermost region is not stored; reading sets it to the
default. -/
instance : Codec Config where
  encode c := .obj
    [("max_branch_depth", encode c.maxBranchDepth),
      ("max_instructions", encode c.maxInstructions), ("match_window", encode c.matchWindow)]
  decode? j :=
    match j.fields? ["max_branch_depth", "max_instructions", "match_window"] with
    | some [depth, instructions, window] => do
      return {
        maxBranchDepth := ← field? depth
        maxInstructions := ← field? instructions
        matchWindow := ← field? window }
    | _ => none

end Backtrack
