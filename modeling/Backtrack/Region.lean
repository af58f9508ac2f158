import Backtrack.Error
import Backtrack.Tag.Basic

/-!
Lexical regions.  The spans name the nested regions the input is in, and the
balanced constructs are those whose closer has not been seen yet.  Both follow
the attributes of the nodes that are opened and closed:

* `balancer`, if it is on, ends the innermost balanced construct and the span it
  began;
* `balanced` begins a construct that its value closes, and with `balancedSpan`
  also a span that is guarded by the closer;
* `span` begins a span that ends with the node and keeps the guard around it.
-/

namespace Backtrack

structure Span where
  name : String
  /-- Text that no match inside the region may run past. -/
  guard : Option String := none
  deriving DecidableEq, Repr

/-- Nested regions.  The outermost one cannot be left. -/
structure SpanStack where
  base : Span
  /-- The regions inside the outermost one, innermost first. -/
  inner : List Span := []
  deriving DecidableEq, Repr

namespace SpanStack

def ofName (name : String) : SpanStack := { base := { name } }

def current (s : SpanStack) : Span := s.inner.headD s.base

def context (s : SpanStack) : String := s.current.name

def guard (s : SpanStack) : Option String := s.current.guard

def size (s : SpanStack) : Nat := s.inner.length + 1

def push (s : SpanStack) (span : Span) : SpanStack := { s with inner := span :: s.inner }

def pop (s : SpanStack) : Except Error (Span × SpanStack) :=
  match s.inner with
  | [] => .error .spanUnderflow
  | span :: inner => .ok (span, { s with inner })

/-- The names of the regions, outermost first. -/
def names (s : SpanStack) : List String := s.base.name :: (s.inner.map (·.name)).reverse

end SpanStack

/-- A construct that waits for its closer. -/
structure BalancedEntry where
  nodeType : String
  closer : String
  /-- Whether it began a guarded span. -/
  pushedSpan : Bool
  deriving DecidableEq, Repr

structure Regions where
  spans : SpanStack
  /-- The constructs that wait for their closer, innermost first. -/
  balanced : List BalancedEntry := []
  deriving DecidableEq, Repr

namespace Regions

def ofName (name : String) : Regions := { spans := .ofName name }

/-! ## Opening and closing nodes

Opening can fail half way, with the balanced construct already ended.  The
regions are therefore returned beside the failure. -/

def popSpan (r : Regions) : Regions × Except Error Unit :=
  match r.spans.pop with
  | .ok (_, spans) => ({ r with spans }, .ok ())
  | .error e => (r, .error e)

/-- End the innermost balanced construct, with the span it began. -/
def endBalanced (r : Regions) (tag : OpenTag) : Regions × Except Error Unit :=
  match r.balanced with
  | [] => (r, .error (.unexpectedCloser tag.typeName))
  | entry :: balanced =>
    let r := { r with balanced }
    if entry.pushedSpan then r.popSpan else (r, .ok ())

/-- Begin the balanced construct the tag asks for, if it does. -/
def beginBalanced (r : Regions) (tag : OpenTag) : Regions :=
  match tag.attributes.text? "balanced" with
  | none => r
  | some closer =>
    let span := tag.attributes.text? "balancedSpan"
    let entry : BalancedEntry :=
      { nodeType := tag.typeName, closer, pushedSpan := span.isSome }
    let r := { r with balanced := entry :: r.balanced }
    match span with
    | none => r
    | some name => { r with spans := r.spans.push { name, guard := some closer } }

/-- Begin the span the tag asks for, if it does.  It has the guard of the region
around it. -/
def beginSpan (r : Regions) (tag : OpenTag) : Regions :=
  match tag.attributes.text? "span" with
  | none => r
  | some name => { r with spans := r.spans.push { name, guard := r.spans.guard } }

def enter (r : Regions) (tag : OpenTag) : Regions × Except Error Unit :=
  let (r, ended) :=
    if (tag.attributes.get? "balancer").any Value.isTruthy then r.endBalanced tag
    else (r, .ok ())
  match ended with
  | .error e => (r, .error e)
  | .ok () => ((r.beginBalanced tag).beginSpan tag, .ok ())

def leave (r : Regions) (tag : OpenTag) : Regions × Except Error Unit :=
  if (tag.attributes.text? "span").isSome then r.popSpan else (r, .ok ())

end Regions

end Backtrack
