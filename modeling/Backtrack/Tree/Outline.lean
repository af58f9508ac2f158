import Backtrack.Tree.Node
import Backtrack.Tree.Printer

/-!
Outlines: a tree with every reference replaced by the value it stands for.  A
single reference stands for the value bound to its name.  The occurrences of an
array reference stand for the values of its list one after the other.  What a
tree says, as text or in print, is read off its outline.
-/

namespace Backtrack

mutual
inductive Outline where
  | node (tag : OpenTag) (items : List OutlineItem)
  | null
  | gap
  | list (values : List Outline)
  deriving Repr

/-- A child of a node together with what it stands for. -/
inductive OutlineItem where
  | literal (text : String)
  | bound (r : Reference) (value : Outline)
  | unbound (r : Reference)
  deriving Repr
end

namespace OutlineItem

def ofOption (r : Reference) : Option Outline → OutlineItem
  | some value => .bound r value
  | none => .unbound r

end OutlineItem

namespace Outline

/-! ## Resolving references -/

/-- Use up the first value of the list bound to `name`.  A value that is no list
is never used up. -/
def takeNext (name : String) :
    List (String × Outline) → Option Outline × List (String × Outline)
  | [] => (none, [])
  | (k, v) :: rest =>
    if k == name then
      match v with
      | .list [] => (none, (k, .list []) :: rest)
      | .list (value :: values) => (some value, (k, .list values) :: rest)
      | v => (some v, (k, v) :: rest)
    else
      let (value, rest) := takeNext name rest
      (value, (k, v) :: rest)

/-- Pair the children with their values.  `left` is `bindings` without the list
values that earlier array references used up. -/
def resolve (bindings : List (String × Outline)) :
    List (String × Outline) → List Child → List OutlineItem
  | _, [] => []
  | left, .literal text :: children => .literal text :: resolve bindings left children
  | left, .reference r :: children =>
    if r.isArray then
      let (value, left) := takeNext r.name left
      OutlineItem.ofOption r value :: resolve bindings left children
    else
      OutlineItem.ofOption r (bindings.lookup r.name) :: resolve bindings left children

end Outline

mutual
def Property.outline : Property → Outline
  | .node tag children properties =>
    let bindings := Property.outlineBindings properties
    .node tag (Outline.resolve bindings bindings children)
  | .null => .null
  | .gap => .gap
  | .list items => .list (Property.outlineList items)

def Property.outlineBindings : List (String × Property) → List (String × Outline)
  | [] => []
  | (name, value) :: rest => (name, value.outline) :: Property.outlineBindings rest

def Property.outlineList : List Property → List Outline
  | [] => []
  | value :: rest => value.outline :: Property.outlineList rest
end

def Node.outline (n : Node) : Outline := (Property.ofNode n).outline

/-! ## Text

The text of a node is its literals and the text of the nodes it refers to, in
order.  Only nodes have text. -/

mutual
def Outline.text : Outline → String
  | .node _ items => Outline.itemsText items
  | .null => ""
  | .gap => ""
  | .list _ => ""

def Outline.itemText : OutlineItem → String
  | .literal text => text
  | .bound _ value => value.text
  | .unbound _ => ""

def Outline.itemsText : List OutlineItem → String
  | [] => ""
  | item :: rest => Outline.itemText item ++ Outline.itemsText rest
end

def Node.text (n : Node) : String := n.outline.text

/-! ## Print -/

/-- The type as printed; a fragment shows a hash. -/
def OpenTag.heading (tag : OpenTag) : String := tag.nodeType.getD "#"

mutual
def Outline.print : Outline → Printer → Printer
  | .node tag [], p => (p.word tag.heading).word " \x7b\x7d"
  | .node tag (item :: items), p =>
    (Outline.printItems (item :: items) ((p.word tag.heading).openBlock " \x7b")).closeBlock "\x7d"
  | .null, p => p.word "null"
  | .gap, p => p.word "<//>"
  | .list values, p =>
    ((p.char '[').separated "," (fun p write => write p) (Outline.printEach values)).char ']'

def Outline.printItem : OutlineItem → Printer → Printer
  | .literal text, p => p.word (Text.quote text)
  | .bound r value, p => value.print (p.word (r.render ++ ": "))
  | .unbound r, p => (p.word (r.render ++ ": ")).word "<unbound>"

def Outline.printItems : List OutlineItem → Printer → Printer
  | [], p => p
  | item :: rest, p => Outline.printItems rest (Outline.printItem item p.newline)

def Outline.printEach : List Outline → List (Printer → Printer)
  | [] => []
  | value :: rest => value.print :: Outline.printEach rest
end

def Property.print (p : Printer) (value : Property) : Printer := value.outline.print p

def Node.print (p : Printer) (n : Node) : Printer := n.outline.print p

def Property.render (value : Property) : String := (value.print {}).text

def Node.render (n : Node) : String := (n.print {}).text

end Backtrack
