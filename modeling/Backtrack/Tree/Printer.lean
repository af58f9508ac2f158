/-!
Indented output.  A printer collects text and knows how deep the current block
is indented; a new line starts with two spaces for every level.
-/

namespace Backtrack

structure Printer where
  text : String := ""
  level : Nat := 0
  deriving Repr

namespace Printer

def indentWidth : Nat := 2

def word (p : Printer) (s : String) : Printer := { p with text := p.text ++ s }

def char (p : Printer) (c : Char) : Printer := { p with text := p.text.push c }

def space (p : Printer) : Printer := p.char ' '

/-- A line break and the indentation of the current level. -/
def newline (p : Printer) : Printer :=
  p.word (String.ofList ('\n' :: List.replicate (p.level * indentWidth) ' '))

def setIndent (p : Printer) (level : Nat) : Printer := { p with level }

def indent (p : Printer) : Printer := p.setIndent (p.level + 1)

/-- The outermost level stays where it is. -/
def dedent (p : Printer) : Printer := p.setIndent (p.level - 1)

def openBlock (p : Printer) (s : String) : Printer := (p.word s).indent

def closeBlock (p : Printer) (s : String) : Printer := p.dedent.newline.word s

/-- The items one after the other, with the separator and a space between
them. -/
def separated {α : Type} (p : Printer) (sep : String) (write : Printer → α → Printer) :
    List α → Printer
  | [] => p
  | a :: rest => rest.foldl (fun p a => write (p.word sep).space a) (write p a)

def option {α : Type} (p : Printer) (write : Printer → α → Printer) : Option α → Printer
  | none => p
  | some a => write p a

end Printer

end Backtrack
