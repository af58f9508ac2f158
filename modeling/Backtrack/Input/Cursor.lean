import Backtrack.Error
import Backtrack.Input.Job

/-!
Cursors.  A cursor is a position in the input and a flag for holding back one
unit.  Any number of cursors read the same buffer; a fork is a copy, and
accepting a fork adopts its position.
-/

namespace Backtrack

structure Cursor where
  /-- The number of units consumed. -/
  offset : Nat := 0
  /-- Whether a unit is held on behalf of a shifted value. -/
  holding : Bool := false
  deriving DecidableEq, Repr

namespace Cursor

/-! ## What has arrived -/

/-- The character under the cursor.  None at a gap, while holding, and where
nothing has arrived. -/
def value (c : Cursor) (b : Buffer) : Option Char :=
  if c.holding then none else b.units[c.offset]?.bind Symbol.char?

def atGap (c : Cursor) (b : Buffer) : Bool := !c.holding && b.units[c.offset]? == some .gap

/-- Whether everything is consumed and nothing is held. -/
def isDone (c : Cursor) (b : Buffer) : Bool :=
  !c.holding && b.exhausted && b.size ≤ c.offset

/-- Up to `n` characters from the cursor, ending before a gap.  Empty while
holding. -/
def textAhead (c : Cursor) (b : Buffer) (n : Nat) : List Char :=
  if c.holding then []
  else
    ((b.units.extract c.offset (c.offset + n)).toList.takeWhile (· != .gap)).filterMap Symbol.char?

/-- The offset `n` units further on.  Among the units that have arrived it can be
counted.  Beyond them it is a machine number, which starts again from zero when it
gets too large. -/
def offsetAfter (c : Cursor) (b : Buffer) (n : Nat) : Nat :=
  if n ≤ b.size - c.offset then c.offset + n else (c.offset + n) % UInt64.size

def tryAdvance (c : Cursor) (b : Buffer) (n : Nat) : Except SourceError Cursor :=
  if c.offsetAfter b n ≤ b.size then .ok { c with offset := c.offsetAfter b n }
  else if b.exhausted then .error (.pastEnd c.offset n b.size)
  else .error .needsInput

/-! ## Holding -/

def shift (c : Cursor) : Except SourceError Cursor :=
  if c.holding then .error .alreadyHolding else .ok { c with holding := true }

def unshift (c : Cursor) : Except SourceError Cursor :=
  if c.holding then .ok { c with holding := false } else .error .notHolding

/-! ## Waiting for input -/

variable {ω : Type}

/-- Wait for the unit under the cursor, so that what is known of it is final.  A
cursor stands within what has arrived, so the next offset can be counted. -/
def prime (c : Cursor) : Job ω Buffer := .fill (c.offset + 1) .done

/-- Consume `n` units, after waiting for them and for the unit behind them. -/
def advance (c : Cursor) (n : Nat) : Job ω (Except SourceError Cursor) := do
  let b ← Job.await (c.offset + n + 1)
  return c.tryAdvance b n

def peek (c : Cursor) (n : Nat) : Job ω (List Char) := do
  let b ← Job.await (c.offset + n)
  return c.textAhead b n

end Cursor

end Backtrack
