import Backtrack.Engine.Run

/-!
A language of bracketed lists, as in `[a, [b, c], "str ing", 42]`.  A value is
tried as a list, a string, a number and an atom, in this order.  A number that
runs straight into a letter is given up and read again as an atom.
-/

namespace Backtrack

namespace Lists

/-! ## Patterns -/

/-- The regular expressions that the language is written with. -/
structure Patterns where
  whitespace : Pattern
  stringContent : Pattern
  number : Pattern
  wordChar : Pattern
  atom : Pattern

def runOf (source : String) (s : Text.CharSet) : Pattern :=
  .ofExpr source (.seq [.assert .startText, .plus (.set s)])

def letters : Text.CharSet :=
  ((Text.CharSet.range 'A' 'Z').union (.range 'a' 'z')).union (.single '_')

def Patterns.standard : Patterns where
  whitespace := runOf "\\s+" .space
  stringContent := runOf "[^\"]+" (Text.CharSet.single '"').compl
  number := runOf "[0-9]+" (.range '0' '9')
  wordChar := .ofExpr "[A-Za-z_]" (.seq [.assert .startText, .set letters])
  atom := runOf "[A-Za-z0-9_]+" (letters.union (.range '0' '9'))

variable (g : Patterns)

/-! ## Pieces -/

def add (t : Terminal) : Strategy Unit := do
  let _ ← Strategy.advance t
  return ()

def openNode (tag : OpenTag) : Strategy Unit := add (.openNode tag)

def matches? (p : Pattern) : Strategy Bool := do
  return (← Strategy.test p).isSome

/-- A node with a literal and nothing else, bound through a reference. -/
def leaf (r : Reference) (tag : OpenTag) (text : String) : Strategy Unit := do
  add (.reference r)
  openNode tag
  add (.literal text)
  add .close

def trivia : Strategy Unit := do
  match ← Strategy.test g.whitespace with
  | none => return ()
  | some space =>
    leaf (.array "trivia") ((OpenTag.typed "Whitespace").withFlags .triviaOnly) space.text

def punctuator (r : Reference) (tag : OpenTag) (text : String) : Strategy Bool := do
  if ← matches? (.literal text) then
    leaf r (tag.withFlags .tokenOnly) text
    return true
  else
    return false

def opener (closer span : String) : OpenTag :=
  ((OpenTag.typed "Punctuator").withAttribute "balanced" (.text closer)).withAttribute
    "balancedSpan" (.text span)

def closer : OpenTag := (OpenTag.typed "Punctuator").withAttribute "balancer" (.bool true)

/-! ## Values -/

inductive Kind where
  | list
  | string
  | number
  | atom
  deriving DecidableEq, Repr

namespace Kind

def all : List Kind := [.list, .string, .number, .atom]

def nodeType : Kind → String
  | .list => "List"
  | .string => "String"
  | .number => "Number"
  | .atom => "Atom"

end Kind

def string : Strategy Bool := do
  if ← punctuator { name := "openToken" } (opener "\"" "String") "\"" then
    match ← Strategy.test g.stringContent with
    | none => pure ()
    | some content =>
      leaf { name := "content" } ((OpenTag.typed "StringContent").withFlags .tokenOnly)
        content.text
    punctuator { name := "closeToken" } closer "\""
  else
    return false

def number : Strategy Bool := do
  match ← Strategy.test g.number with
  | none => return false
  | some run =>
    add (.literal run.text)
    return !(← matches? g.wordChar)

def atom : Strategy Bool := do
  match ← Strategy.test g.atom with
  | none => return false
  | some run =>
    add (.literal run.text)
    return true

/-- The items of a list and the separators between them, up to the closing
bracket or to an item without a separator after it.  False if something that is
no value stands where an item should.  Every item asks instructions, so a run
that may execute fewer than `rounds` of them never reaches the bound. -/
def items (item : Strategy Bool) : Nat → Strategy Bool
  | 0 => return false
  | rounds + 1 => do
    if ← matches? (.literal "]") then return true
    if !(← item) then return false
    trivia g
    if ← punctuator (.array "separators") (OpenTag.typed "Punctuator") "," then
      trivia g
      items item rounds
    else
      return true

def list (item : Strategy Bool) (rounds : Nat) : Strategy Bool := do
  if ← punctuator { name := "openToken" } (opener "]" "List") "[" then
    trivia g
    if ← items g item rounds then
      punctuator { name := "closeToken" } closer "]"
    else
      return false
  else
    return false

def body (item : Strategy Bool) (rounds : Nat) : Kind → Strategy Bool
  | .list => list g item rounds
  | .string => string g
  | .number => number g
  | .atom => atom g

/-- Try the kinds in order, each in a branch of its own.  Null if none fits. -/
def alternatives (item : Strategy Bool) (rounds : Nat) : List Kind → Strategy Bool
  | [] => do
    add .null
    return false
  | kind :: rest => do
    let _ ← Strategy.branch
    openNode (OpenTag.typed kind.nodeType)
    if ← body g item rounds kind then
      add .close
      let _ ← Strategy.accept
      return true
    else
      let _ ← Strategy.reject
      alternatives item rounds rest

/-- A value bound through a reference.  Lists nest at most `rounds` deep, which a
run with fewer instructions never reaches. -/
def value : Nat → Reference → Strategy Bool
  | 0, _ => return false
  | rounds + 1, r => do
    add (.reference r)
    alternatives g (value rounds (.array "items")) (rounds + 1) Kind.all

/-- One value with white space around it, under an instruction limit. -/
def document (limit : Nat) (g : Patterns := .standard) : Strategy Unit := do
  openNode ((OpenTag.typed "Document").withLanguage "lists")
  trivia g
  if ← value g (limit + 1) { name := "value" } then
    trivia g
  add .close

end Lists

end Backtrack
