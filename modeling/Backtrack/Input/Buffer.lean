/-!
Input.  The input is a sequence of units, characters and gaps, that may arrive
in chunks.  What has arrived is kept in a buffer that only ever grows; what has
not arrived yet is a list of deliveries.
-/

namespace Backtrack

inductive Symbol where
  | char (c : Char)
  /-- Embedded content that the text does not spell out. -/
  | gap
  deriving DecidableEq, Repr

namespace Symbol

def char? : Symbol → Option Char
  | .char c => some c
  | .gap => none

def ofText (text : String) : List Symbol := text.toList.map .char

end Symbol

/-- What happens when the source is asked for more. -/
inductive Delivery where
  /-- Some units arrive, possibly none. -/
  | chunk (units : List Symbol)
  /-- Nothing has arrived yet; the next time is another matter. -/
  | wait
  deriving DecidableEq, Repr

/-- A source that has not reported the end of its input.  After the last
delivery it either reports the end or stays silent for ever. -/
structure Feed where
  deliveries : List Delivery
  staysOpen : Bool := false
  deriving DecidableEq, Repr

/-- The units that have arrived, and the source of the rest until it has reported
the end. -/
structure Buffer where
  units : Array Symbol
  feed : Option Feed := none
  deriving DecidableEq, Repr

namespace Buffer

/-! ## Sources -/

def ofUnits (units : List Symbol) : Buffer := { units := units.toArray }

def ofText (text : String) : Buffer := ofUnits (Symbol.ofText text)

def ofFeed (feed : Feed) : Buffer := { units := #[], feed := some feed }

def ofChunks (chunks : List (List Symbol)) : Buffer :=
  ofFeed { deliveries := chunks.map .chunk }

/-! ## Filling -/

def exhausted (b : Buffer) : Bool := b.feed.isNone

def size (b : Buffer) : Nat := b.units.size

/-- How often the source still has to be waited for. -/
def waiting (b : Buffer) : Nat := (b.feed.map fun feed => feed.deliveries.count .wait).getD 0

/-- Ask the source for chunks until `upto` units are there or the input ends.
The second part is false if the source had to be waited for; what arrived before
that is kept. -/
def pull (units : Array Symbol) (staysOpen : Bool) (upto : Nat) :
    List Delivery → Buffer × Bool
  | [] =>
    if upto ≤ units.size then ({ units, feed := some { deliveries := [], staysOpen } }, true)
    else if staysOpen then ({ units, feed := some { deliveries := [], staysOpen } }, false)
    else ({ units }, true)
  | .wait :: rest =>
    if upto ≤ units.size then
      ({ units, feed := some { deliveries := .wait :: rest, staysOpen } }, true)
    else ({ units, feed := some { deliveries := rest, staysOpen } }, false)
  | .chunk more :: rest =>
    if upto ≤ units.size then
      ({ units, feed := some { deliveries := .chunk more :: rest, staysOpen } }, true)
    else pull (units ++ more) staysOpen upto rest

def fill (b : Buffer) (upto : Nat) : Buffer × Bool :=
  match b.feed with
  | none => (b, true)
  | some feed => pull b.units feed.staysOpen upto feed.deliveries

end Buffer

end Backtrack
