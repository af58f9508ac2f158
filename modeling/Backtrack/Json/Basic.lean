/-!
Structured data for storing trees and views.  A record is an object with a
member for every field, or an array of the fields in order.  A choice is the
name of the alternative as a string, or an object with that name as its only
key.
-/

namespace Backtrack

inductive Json where
  | null
  | bool (b : Bool)
  | int (n : Int)
  /-- A number with a fraction or an exponent: `mantissa` over ten to the
  `scale`.  It is never read as an integer, even where it equals one. -/
  | decimal (mantissa : Int) (scale : Nat)
  | str (s : String)
  | arr (items : List Json)
  | obj (members : List (String × Json))

instance : Inhabited Json := ⟨.null⟩

namespace Json

/-- The fields of a record.  A missing member is none, a member that is not
asked for is ignored, and an array must have exactly the fields. -/
def fields? (names : List String) : Json → Option (List (Option Json))
  | .obj members => some (names.map fun name => members.lookup name)
  | .arr items => if items.length = names.length then some (items.map some) else none
  | _ => none

theorem sizeOf_lt_of_lookup {name : String} {members : List (String × Json)} {v : Json}
    (h : members.lookup name = some v) : sizeOf v < sizeOf members := by
  induction members with
  | nil => simp at h
  | cons member rest ih =>
      obtain ⟨k, w⟩ := member
      rw [List.lookup_cons] at h
      split at h
      · cases h
        simp
        omega
      · have := ih h
        simp
        omega

theorem sizeOf_lt_of_fields? {names : List String} {j v : Json} {fields : List (Option Json)}
    (h : j.fields? names = some fields) (hv : some v ∈ fields) : sizeOf v < sizeOf j := by
  cases j with
  | obj members =>
      simp only [fields?, Option.some.injEq] at h
      subst h
      obtain ⟨name, _, hname⟩ := List.mem_map.mp hv
      have := sizeOf_lt_of_lookup hname
      simp
      omega
  | arr items =>
      simp only [fields?] at h
      split at h
      · cases h
        obtain ⟨item, hitem, heq⟩ := List.mem_map.mp hv
        cases heq
        have := List.sizeOf_lt_of_mem hitem
        simp
        omega
      · cases h
  | _ => simp [fields?] at h

def natBelow? (bound : Nat) : Json → Option Nat
  | .int n => if 0 ≤ n ∧ n < bound then some n.toNat else none
  | _ => none

/-- The alternative of a choice and what comes with it. -/
def choice? : Json → Option (String × Option Json)
  | .str name => some (name, none)
  | .obj [(name, body)] => some (name, some body)
  | _ => none

def isBare : Option Json → Bool
  | none => true
  | some .null => true
  | some _ => false

end Json

/-- Values that can be stored. -/
class Codec (α : Type) where
  encode : α → Json
  decode? : Json → Option α

namespace Codec

variable {α : Type} [Codec α]

def field? (j : Option Json) : Option α := j.bind decode?

/-- A field that may be missing or null. -/
def optionalField? : Option Json → Option (Option α)
  | none => some none
  | some .null => some none
  | some j => (decode? j).map some

instance : Codec Bool where
  encode := .bool
  decode?
    | .bool b => some b
    | _ => none

instance : Codec String where
  encode := .str
  decode?
    | .str s => some s
    | _ => none

/-- Counts and offsets have 64 bits. -/
instance : Codec Nat where
  encode n := .int n
  decode? := Json.natBelow? UInt64.size

instance : Codec UInt32 where
  encode n := .int n.toNat
  decode? j := (Json.natBelow? UInt32.size j).map UInt32.ofNat

instance : Codec (Option α) where
  encode
    | none => .null
    | some a => encode a
  decode? j := optionalField? (some j)

instance : Codec (List α) where
  encode items := .arr (items.map encode)
  decode?
    | .arr items => items.mapM decode?
    | _ => none

end Codec

end Backtrack
