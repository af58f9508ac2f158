/-!
Attributes of a tag: a finite map from names to values.  The entries are kept
sorted by name, so that two maps with the same content are the same value and a
removal after an insertion gives back what was there.
-/

namespace Backtrack

inductive Value where
  | bool (b : Bool)
  | text (s : String)
  deriving DecidableEq, Repr

namespace Value

/-- Whether a flag-like attribute is on.  A text is on unless it is empty. -/
def isTruthy : Value → Bool
  | .bool b => b
  | .text s => !s.isEmpty

def text? : Value → Option String
  | .bool _ => none
  | .text s => some s

end Value

structure Attributes where
  entries : List (String × Value)
  sorted : entries.Pairwise (fun a b => a.1 < b.1)
  deriving DecidableEq, Repr

namespace Attributes

instance : EmptyCollection Attributes := ⟨⟨[], List.Pairwise.nil⟩⟩

instance : Inhabited Attributes := ⟨∅⟩

def get? (attributes : Attributes) (key : String) : Option Value :=
  attributes.entries.lookup key

def text? (attributes : Attributes) (key : String) : Option String :=
  (attributes.get? key).bind Value.text?

/-! ## Insertion -/

/-- Put an entry in its place, in place of one with the same name. -/
def insertEntry (key : String) (value : Value) : List (String × Value) → List (String × Value)
  | [] => [(key, value)]
  | (k, v) :: rest =>
    if key < k then (key, value) :: (k, v) :: rest
    else if key = k then (key, value) :: rest
    else (k, v) :: insertEntry key value rest

theorem mem_insertEntry {key : String} {value : Value} {entries : List (String × Value)}
    {e : String × Value} (h : e ∈ insertEntry key value entries) :
    e = (key, value) ∨ e ∈ entries := by
  induction entries with
  | nil => simpa [insertEntry] using h
  | cons head rest ih =>
      obtain ⟨k, v⟩ := head
      unfold insertEntry at h
      split at h
      · simpa using h
      · split at h
        · rcases List.mem_cons.mp h with h | h
          · exact Or.inl h
          · exact Or.inr (List.mem_cons_of_mem _ h)
        · rcases List.mem_cons.mp h with h | h
          · exact Or.inr (h ▸ List.mem_cons_self)
          · rcases ih h with h | h
            · exact Or.inl h
            · exact Or.inr (List.mem_cons_of_mem _ h)

theorem lt_of_not_lt_of_ne {a b : String} (h : ¬ a < b) (hne : a ≠ b) : b < a := by
  have hle : b ≤ a := String.not_lt.mp h
  by_cases hlt : b < a
  · exact hlt
  · exact absurd (String.le_antisymm (String.not_lt.mp hlt) hle) hne

theorem sorted_insertEntry (key : String) (value : Value) {entries : List (String × Value)}
    (h : entries.Pairwise (fun a b => a.1 < b.1)) :
    (insertEntry key value entries).Pairwise (fun a b => a.1 < b.1) := by
  induction entries with
  | nil => simp [insertEntry]
  | cons head rest ih =>
      obtain ⟨k, v⟩ := head
      obtain ⟨hhead, hrest⟩ := List.pairwise_cons.mp h
      unfold insertEntry
      split
      · rename_i hlt
        refine List.pairwise_cons.mpr ⟨?_, h⟩
        intro e he
        rcases List.mem_cons.mp he with rfl | he
        · exact hlt
        · exact String.lt_trans hlt (hhead e he)
      · split
        · rename_i _ heq
          subst heq
          exact List.pairwise_cons.mpr ⟨hhead, hrest⟩
        · rename_i hlt hne
          refine List.pairwise_cons.mpr ⟨?_, ih hrest⟩
          intro e he
          rcases mem_insertEntry he with rfl | he
          · exact lt_of_not_lt_of_ne hlt hne
          · exact hhead e he

def insert (attributes : Attributes) (key : String) (value : Value) : Attributes :=
  { entries := insertEntry key value attributes.entries,
    sorted := sorted_insertEntry key value attributes.sorted }

def erase (attributes : Attributes) (key : String) : Attributes :=
  { entries := attributes.entries.filter (fun e => e.1 ≠ key),
    sorted := attributes.sorted.filter _ }

/-- Put back what an attribute was before it was set. -/
def restore (attributes : Attributes) (key : String) : Option Value → Attributes
  | some value => attributes.insert key value
  | none => attributes.erase key

/-- A later entry replaces an earlier one of the same name. -/
def ofList (entries : List (String × Value)) : Attributes :=
  entries.foldl (fun acc e => acc.insert e.1 e.2) ∅

end Attributes

end Backtrack
