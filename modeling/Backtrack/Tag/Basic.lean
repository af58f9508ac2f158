import Backtrack.Tag.Attributes

/-!
Tags of nodes: what opens a node, what a document starts with, and the named
slots that child nodes are bound to.
-/

namespace Backtrack

structure NodeFlags where
  /-- The children are literals only. -/
  token : Bool := false
  /-- White space or a comment. -/
  trivia : Bool := false
  /-- An escape sequence. -/
  escape : Bool := false
  deriving DecidableEq, Repr

namespace NodeFlags

def tokenOnly : NodeFlags := { token := true }

def triviaOnly : NodeFlags := { trivia := true }

/-- An escape sequence is a token as well. -/
def escapeToken : NodeFlags := { token := true, escape := true }

/-- Whether a rejected branch inside such a node leaves its properties alone. -/
def exemptFromRepair (flags : NodeFlags) : Bool := flags.trivia || flags.escape

end NodeFlags

/-- A named slot of a node.  An array slot collects every value bound through
it. -/
structure Reference where
  name : String
  isArray : Bool := false
  deriving DecidableEq, Repr

namespace Reference

def array (name : String) : Reference := { name, isArray := true }

def render (r : Reference) : String := if r.isArray then r.name ++ "[]" else r.name

end Reference

structure OpenTag where
  /-- Absent for a fragment, which never touches the lexical regions. -/
  nodeType : Option String := none
  flags : NodeFlags := {}
  /-- The language the contents are written in, if the tag declares one. -/
  language : Option String := none
  attributes : Attributes := ∅
  deriving DecidableEq, Repr

namespace OpenTag

def typed (nodeType : String) : OpenTag := { nodeType := some nodeType }

def withFlags (tag : OpenTag) (flags : NodeFlags) : OpenTag := { tag with flags }

def withLanguage (tag : OpenTag) (language : String) : OpenTag :=
  { tag with language := some language }

def withAttribute (tag : OpenTag) (key : String) (value : Value) : OpenTag :=
  { tag with attributes := tag.attributes.insert key value }

/-- The type as shown in messages, empty for a fragment. -/
def typeName (tag : OpenTag) : String := tag.nodeType.getD ""

end OpenTag

structure DoctypeTag where
  version : UInt32 := 0
  attributes : Attributes := ∅
  deriving DecidableEq, Repr

end Backtrack
