import Backtrack.Tag.Basic
import Backtrack.Text.Quoted

/-!
Terminals: the pieces of a document in the order they are written.  A document
is a sequence of them, and every step of a parse adds one.
-/

namespace Backtrack

def Value.render : Value → String
  | .bool b => if b then "true" else "false"
  | .text s => Text.quote s

inductive Terminal where
  | doctype (tag : DoctypeTag)
  | openNode (tag : OpenTag)
  | close
  | literal (text : String)
  /-- Stands for content that the source does not spell out. -/
  | gap
  /-- Takes the value bound last out of its slot, to be put under a new node. -/
  | shift
  | reference (r : Reference)
  | null
  deriving DecidableEq, Repr

namespace Terminal

def kind : Terminal → String
  | .doctype _ => "DoctypeTag"
  | .openNode _ => "OpenNodeTag"
  | .close => "CloseNodeTag"
  | .literal _ => "Literal"
  | .gap => "Gap"
  | .shift => "Shift"
  | .reference _ => "Reference"
  | .null => "Null"

def render : Terminal → String
  | .doctype tag => "<!" ++ toString tag.version.toNat ++ ">"
  | .openNode tag => "<" ++ tag.typeName ++ ">"
  | .close => "</>"
  | .literal text => Text.quote text
  | .gap => "<//>"
  | .shift => "^^^"
  | .reference r => r.render ++ ":"
  | .null => "null"

def reference? : Terminal → Option Reference
  | .reference r => some r
  | _ => none

end Terminal

end Backtrack
