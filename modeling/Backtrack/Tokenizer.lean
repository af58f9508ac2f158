import Backtrack.Config
import Backtrack.FrameStack
import Backtrack.Region

/-!
Speculation over tokens.  A tokenizer follows the rules of the frame stack over
a small state: the token produced last, the text matched so far and the nested
regions.
-/

namespace Backtrack

/-- Which of the two levels of speculation a view belongs to. -/
inductive Production where
  | token
  | node
  deriving DecidableEq, Repr

structure Token where
  nodeType : String
  text : String
  deriving DecidableEq, Repr

namespace Token

/-- Stands before the first token. -/
def start : Token := { nodeType := "BOF", text := "" }

end Token

structure LexicalState where
  lastToken : Token := .start
  /-- The text of the tokens produced in this attempt and those it is part of. -/
  matched : String := ""
  spans : SpanStack
  deriving DecidableEq, Repr

/-- An attempt starts as a copy, and an accepted one takes the place of what it
was copied from. -/
instance : Payload LexicalState where
  fork state := state
  merge _ child := child

structure LexicalView where
  id : FrameId
  production : Production
  depth : Nat
  parent : Option FrameId
  status : Status
  lastToken : Token
  lexicalContext : String
  deriving DecidableEq, Repr

structure Tokenizer where
  stack : FrameStack LexicalState
  frame : FrameId := .root

namespace Tokenizer

def start (config : Config) : Tokenizer :=
  { stack := .ofRoot { spans := .ofName config.initialSpan } }

def state (t : Tokenizer) : LexicalState := t.stack.current

def view (t : Tokenizer) : LexicalView where
  id := t.frame
  production := .token
  depth := (t.stack.depth? t.frame).getD 0
  parent := t.stack.parent? t.frame
  status := (t.stack.status? t.frame).getD .suspended
  lastToken := t.state.lastToken
  lexicalContext := t.state.spans.context

def branch (t : Tokenizer) : Except Error Tokenizer := do
  let (stack, frame) ← t.stack.branch t.frame
  return { stack, frame }

def accept (t : Tokenizer) : Except Error Tokenizer := do
  let (stack, frame) ← t.stack.accept t.frame
  return { stack, frame }

def reject (t : Tokenizer) : Except Error Tokenizer := do
  let (stack, frame, _) ← t.stack.reject t.frame
  return { stack, frame }

def pushContext (t : Tokenizer) (name : String) : Tokenizer :=
  { t with stack := t.stack.modify fun s => { s with spans := s.spans.push { name } } }

def popContext (t : Tokenizer) : Except Error (String × Tokenizer) := do
  let (span, spans) ← t.state.spans.pop
  return (span.name, { t with stack := t.stack.modify fun s => { s with spans } })

def record (t : Tokenizer) (token : Token) : Tokenizer :=
  { t with stack := t.stack.modify fun s =>
      { s with matched := s.matched ++ token.text, lastToken := token } }

end Tokenizer

end Backtrack
