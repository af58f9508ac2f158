import Backtrack.Regex.Scan
import Backtrack.Text.Property

/-!
Escapes: what a backslash makes of the characters after it.  An escape that has
no meaning is refused rather than taken literally.
-/

namespace Backtrack
namespace Regex
namespace Parser

inductive Escaped where
  | literal (c : Char)
  | set (s : Text.CharSet)
  | assert (a : Assertion)

/-- Characters with a meaning in the notation, which an escape takes away. -/
def isMeta (c : Char) : Bool :=
  ['\\', '.', '+', '*', '?', '(', ')', '|', '[', ']', '\x7b', '\x7d', '^', '$', '#', '&', '-',
    '~'].contains c

/-- Other characters that may be escaped to no effect: ASCII without letters,
digits and angle brackets, which are kept for later meanings. -/
def isEscapable (c : Char) : Bool :=
  isMeta c || (c.toNat < 128 && !c.isAlphanum && c != '<' && c != '>')

/-- A character by its code point, after the letter that announces it: a fixed
number of digits, or any number in braces.  Two digits stand for a byte when
the pattern is not Unicode, and no byte beyond ASCII is a character. -/
def hex? (f : Flags) (width : Nat) (cs : List Char) : Option (Char × List Char) :=
  match skip f cs with
  | '\x7b' :: rest =>
    match takeRun f isHex (skip f rest) with
    | ([], _) => none
    | (digits, '\x7d' :: rest) => (char? (numberValue 16 digits)).map (·, skip f rest)
    | _ => none
  | cs => do
    let (digits, rest) ← hexDigits? f width cs
    let c ← char? (numberValue 16 digits)
    if !f.unicode && width = 2 && c.toNat ≥ 128 then none
    some (c, rest)

def wordAssertion? (w : WordClass) (name : String) : Option Assertion :=
  match name with
  | "start" => some (.wordStart w)
  | "end" => some (.wordEnd w)
  | "start-half" => some (.wordStartHalf w)
  | "end-half" => some (.wordEndHalf w)
  | _ => none

def isAssertionChar (c : Char) : Bool := c.isAlpha || c = '-'

/-- A word boundary, possibly followed by the name of a special one.  Braces that
do not start with a name are left for the count they must be. -/
def boundary? (f : Flags) : List Char → Option (Assertion × List Char)
  | '\x7b' :: rest =>
    match takeRun f isAssertionChar (skip f rest) with
    | ([], []) => none
    | ([], _) => some (.wordBoundary f.word, '\x7b' :: rest)
    | (name, '\x7d' :: rest) => (wordAssertion? f.word (String.ofList name)).map (·, rest)
    | _ => none
  | cs => some (.wordBoundary f.word, cs)

def splitAt? (mark : List Char) : List Char → Option (List Char × List Char)
  | [] => none
  | c :: cs =>
    if mark.isPrefixOf (c :: cs) then some ([], (c :: cs).drop mark.length)
    else (splitAt? mark cs).map fun (before, after) => (c :: before, after)

/-- The set a property stands for and whether the way it is written negates it:
a name alone, or a name and a value with a sign between them. -/
def property? (text : List Char) : Option (Bool × Text.CharSet) :=
  match splitAt? ['!', '='] text with
  | some (name, value) => (Text.Property.valueClass? name value).map (true, ·)
  | none =>
    match (splitAt? [':'] text).or (splitAt? ['='] text) with
    | some (name, value) => (Text.Property.valueClass? name value).map (false, ·)
    | none => (Text.Property.class? text).map (false, ·)

/-- A property after the letter that announces it: one letter, or more in
braces. -/
def propertySet? (f : Flags) (negated : Bool) (cs : List Char) :
    Option (Text.CharSet × List Char) := do
  if !f.unicode then none
  let (text, rest) ← match skip f cs with
    | '\x7b' :: rest =>
      match takeRun f (· != '\x7d') (skip f rest) with
      | (text, _ :: rest) => some (text, rest)
      | _ => none
    | '\\' :: _ | [] => none
    | c :: rest => some ([c], skip f rest)
  let (opposite, s) ← property? text
  let s ← f.finish? (negated != opposite) s
  some (s, rest)

def escape? (f : Flags) : List Char → Option (Escaped × List Char)
  | [] => none
  | 'd' :: cs => (f.digit? false).map (.set ·, cs)
  | 'D' :: cs => (f.digit? true).map (.set ·, cs)
  | 's' :: cs => (f.space? false).map (.set ·, cs)
  | 'S' :: cs => (f.space? true).map (.set ·, cs)
  | 'w' :: cs => (f.word? false).map (.set ·, cs)
  | 'W' :: cs => (f.word? true).map (.set ·, cs)
  | 'p' :: cs => (propertySet? f false cs).map fun (s, cs) => (.set s, cs)
  | 'P' :: cs => (propertySet? f true cs).map fun (s, cs) => (.set s, cs)
  | 'x' :: cs => (hex? f 2 cs).map fun (c, cs) => (.literal c, cs)
  | 'u' :: cs => (hex? f 4 cs).map fun (c, cs) => (.literal c, cs)
  | 'U' :: cs => (hex? f 8 cs).map fun (c, cs) => (.literal c, cs)
  | 'a' :: cs => some (.literal '\x07', cs)
  | 'f' :: cs => some (.literal '\x0c', cs)
  | 't' :: cs => some (.literal '\t', cs)
  | 'n' :: cs => some (.literal '\n', cs)
  | 'r' :: cs => some (.literal '\r', cs)
  | 'v' :: cs => some (.literal '\x0b', cs)
  | 'A' :: cs => some (.assert .startText, cs)
  | 'z' :: cs => some (.assert .endText, cs)
  | 'b' :: cs => (boundary? f cs).map fun (a, cs) => (.assert a, cs)
  | 'B' :: cs => some (.assert (.notWordBoundary f.word), cs)
  | '<' :: cs => some (.assert (.wordStart f.word), cs)
  | '>' :: cs => some (.assert (.wordEnd f.word), cs)
  | c :: cs => if isEscapable c then some (.literal c, cs) else none

end Parser
end Regex
end Backtrack
