import Backtrack.Tree.Outline

/-!
Finished documents.
-/

namespace Backtrack

structure Document where
  /-- The attributes of the doctype, if there was one. -/
  doctype : Option Attributes := none
  root : Node
  /-- Everything written beside the tree. -/
  written : String := ""
  deriving Repr

namespace Document

def print (p : Printer) (d : Document) : Printer :=
  d.root.print (if d.doctype.isSome then (p.word "<!doctype>").newline else p)

def render (d : Document) : String := (d.print {}).text

end Document

end Backtrack
