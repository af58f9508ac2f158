import Backtrack.Tree.Node
import Mathlib.Data.List.Basic
import Mathlib.Data.List.TakeDrop

/-!
Every change of a node can be taken back.  Setting an attribute is inverted by
restoring what was there before; binding a value and taking one out are inverses
of each other as long as one knows how the properties changed.
-/

namespace Backtrack

namespace Attributes

theorem eq_of_entries_eq {a b : Attributes} (h : a.entries = b.entries) : a = b := by
  cases a
  cases b
  cases h
  rfl

theorem ne_of_lookup_eq_none {key : String} {entries : List (String × Value)}
    (h : entries.lookup key = none) : ∀ e ∈ entries, e.1 ≠ key := by
  intro e he hkey
  have hne := List.lookup_eq_none_iff.mp h e he
  simp [hkey] at hne

theorem filter_insertEntry {key : String} {value : Value} {entries : List (String × Value)}
    (h : entries.lookup key = none) :
    (insertEntry key value entries).filter (fun e => e.1 ≠ key) = entries := by
  have hne := ne_of_lookup_eq_none h
  clear h
  induction entries with
  | nil => simp [insertEntry]
  | cons head rest ih =>
      have hhead : head.1 ≠ key := hne head List.mem_cons_self
      have hrest : ∀ e ∈ rest, e.1 ≠ key := fun e he => hne e (List.mem_cons_of_mem _ he)
      unfold insertEntry
      split
      · have hid : rest.filter (fun e => e.1 ≠ key) = rest := by
          simpa [List.filter_eq_self] using hrest
        simpa [hhead] using hid
      · rw [if_neg (Ne.symm hhead), List.filter_cons_of_pos (by simpa using hhead), ih hrest]

theorem insertEntry_insertEntry {key : String} {old new : Value}
    {entries : List (String × Value)} (hsorted : entries.Pairwise (fun a b => a.1 < b.1))
    (h : entries.lookup key = some old) :
    insertEntry key old (insertEntry key new entries) = entries := by
  induction entries with
  | nil => simp at h
  | cons head rest ih =>
      obtain ⟨k, v⟩ := head
      obtain ⟨hhead, hrest⟩ := List.pairwise_cons.mp hsorted
      by_cases hk : key = k
      · subst hk
        have hv : v = old := by simpa using h
        simp [insertEntry, hv]
      · have hlookup : rest.lookup key = some old := by
          rw [List.lookup_cons, beq_false_of_ne hk] at h
          exact h
        -- An entry with this name further on rules out that the new one goes first.
        have hlt : ¬ key < k := by
          intro hlt
          have hnone : rest.lookup key = none := by
            rw [List.lookup_eq_none_iff]
            intro e he
            have hne : key ≠ e.1 :=
              fun heq => String.lt_irrefl key (String.lt_trans hlt (heq ▸ hhead e he))
            simpa using hne
          rw [hnone] at hlookup
          cases hlookup
        simp [insertEntry, hlt, hk, ih hrest hlookup]

theorem restore_insert (attributes : Attributes) (key : String) (value : Value) :
    (attributes.insert key value).restore key (attributes.get? key) = attributes := by
  apply eq_of_entries_eq
  cases h : attributes.get? key with
  | none => exact filter_insertEntry h
  | some old => exact insertEntry_insertEntry attributes.sorted h

theorem lookup_insertEntry_self (key : String) (value : Value)
    (entries : List (String × Value)) : (insertEntry key value entries).lookup key = some value := by
  induction entries with
  | nil => simp [insertEntry]
  | cons head rest ih =>
      unfold insertEntry
      split
      · simp
      · split
        · simp
        · next hne => rw [List.lookup_cons, beq_false_of_ne hne, ih]

theorem lookup_insertEntry_of_ne {key other : String} (value : Value) (h : other ≠ key)
    (entries : List (String × Value)) :
    (insertEntry key value entries).lookup other = entries.lookup other := by
  induction entries with
  | nil => simp [insertEntry, h]
  | cons head rest ih =>
      unfold insertEntry
      split
      · rw [List.lookup_cons, beq_false_of_ne h]
      · split
        · next heq =>
          rw [List.lookup_cons, beq_false_of_ne h, List.lookup_cons, ← heq, beq_false_of_ne h]
        · rw [List.lookup_cons, List.lookup_cons, ih]

@[simp] theorem text?_insert_self (attributes : Attributes) (key : String) (value : Value) :
    (attributes.insert key value).text? key = value.text? := by
  rw [text?, get?, insert, lookup_insertEntry_self, Option.bind_some]

theorem text?_insert_of_ne {key other : String} (attributes : Attributes) (value : Value)
    (h : other ≠ key) : (attributes.insert key value).text? other = attributes.text? other := by
  rw [text?, get?, insert, lookup_insertEntry_of_ne value h, text?, get?]

end Attributes

namespace Node

/-! ## The list bound to a name -/

theorem lookup_updateList_self {name : String} {ps : List (String × Property)}
    {items : List Property} (f : List Property → List Property)
    (h : ps.lookup name = some (.list items)) :
    (updateList name f ps).lookup name = some (.list (f items)) := by
  induction ps with
  | nil => simp at h
  | cons head rest ih =>
      obtain ⟨k, v⟩ := head
      by_cases hk : k = name
      · subst hk
        have hv : v = .list items := by simpa using h
        simp [updateList, hv]
      · have hk' : (name == k) = false := by simpa using Ne.symm hk
        rw [List.lookup_cons, hk'] at h
        simp only [updateList, beq_iff_eq, hk, if_false, List.lookup_cons, hk']
        exact ih h

theorem lookup_updateList_of_ne {name other : String} (ps : List (String × Property))
    (f : List Property → List Property) (h : other ≠ name) :
    (updateList name f ps).lookup other = ps.lookup other := by
  induction ps with
  | nil => rfl
  | cons head rest ih =>
      obtain ⟨k, v⟩ := head
      by_cases hk : k = name
      · subst hk
        have hk' : (other == k) = false := by simpa using h
        cases v <;> simp [updateList, List.lookup_cons, hk']
      · simp only [updateList, beq_iff_eq, hk, if_false, List.lookup_cons, ih]

theorem updateList_updateList (name : String) (f g : List Property → List Property)
    (ps : List (String × Property)) :
    updateList name f (updateList name g ps) = updateList name (fun items => f (g items)) ps := by
  induction ps with
  | nil => rfl
  | cons head rest ih =>
      obtain ⟨k, v⟩ := head
      by_cases hk : k = name
      · subst hk
        cases v <;> simp [updateList]
      · simp only [updateList, beq_iff_eq, hk, if_false, ih]

theorem updateList_eq_self {name : String} {f : List Property → List Property}
    {ps : List (String × Property)}
    (h : ∀ items, ps.lookup name = some (.list items) → f items = items) :
    updateList name f ps = ps := by
  induction ps with
  | nil => rfl
  | cons head rest ih =>
      obtain ⟨k, v⟩ := head
      by_cases hk : k = name
      · subst hk
        cases v with
        | list items => simp [updateList, h items (by simp)]
        | _ => simp [updateList]
      · have hrest : updateList name f rest = rest := by
          refine ih (fun items hitems => h items ?_)
          rw [List.lookup_cons, beq_false_of_ne (Ne.symm hk)]
          exact hitems
        simp only [updateList, beq_iff_eq, hk, if_false, hrest]

/-! ## Binding and taking back -/

theorem splitLast_append (name : String) (value : Property) (ps : List (String × Property)) :
    splitLast name (ps ++ [(name, value)]) = some (value, ps) := by
  simp [splitLast, List.span, List.span.loop]

theorem revertBind_bind {n n' : Node} {r : Reference} {value : Property} {how : Bound}
    (h : n.bind r value = .ok (n', how)) : n'.revertBind r how = some (value, n) := by
  unfold bind at h
  cases hcheck : n.checkBindable r with
  | error e => simp [hcheck, Bind.bind, Except.bind] at h
  | ok u =>
    simp only [hcheck, Bind.bind, Except.bind] at h
    by_cases harray : r.isArray = true
    · simp only [harray, if_true] at h
      split at h
      · next items hitems =>
          cases h
          have hlookup := lookup_updateList_self (· ++ [value]) hitems
          have hback : updateList r.name List.dropLast
              (updateList r.name (· ++ [value]) n.properties) = n.properties := by
            rw [updateList_updateList]
            exact updateList_eq_self (fun items _ => by simp)
          simp [revertBind, property?, hlookup, lastItem?, hback]
      · cases h
        simp [revertBind, splitLast_append, harray]
    · simp only [harray, if_false, Bool.false_eq_true] at h
      cases h
      simp only [revertBind, splitLast_append, harray]
      cases value <;> rfl

theorem revertUnbind_unbind {n n' : Node} {r : Reference} {value : Property} {how : Unbound}
    (h : n.unbind r = some (value, n', how)) : n'.revertUnbind r value how = n := by
  unfold unbind at h
  by_cases harray : r.isArray = true
  · simp only [harray, if_true] at h
    cases hlookup : n.property? r.name with
    | none => simp [hlookup] at h
    | some v =>
      cases v with
      | list items =>
        cases hlast : items.getLast? with
        | none => simp [hlookup, lastItem?, hlast] at h
        | some last =>
          simp only [hlookup, Option.bind_some, lastItem?, hlast, Option.bind_eq_bind,
            Option.some.injEq, Prod.mk.injEq] at h
          obtain ⟨rfl, rfl, rfl⟩ := h
          have hback : updateList r.name (· ++ [last])
              (updateList r.name List.dropLast n.properties) = n.properties := by
            rw [updateList_updateList]
            refine updateList_eq_self (fun other hother => ?_)
            have hsame : other = items := by
              have heq := hother.symm.trans hlookup
              simpa using heq
            rw [hsame]
            exact List.dropLast_append_getLast? last hlast
          simp [revertUnbind, hback]
      | _ => simp [hlookup, lastItem?] at h
  · simp only [harray, if_false, Bool.false_eq_true, List.span_eq_takeWhile_dropWhile] at h
    split at h
    · next before k v after hsplit =>
        simp only [Prod.mk.injEq] at hsplit
        simp only [Option.some.injEq, Prod.mk.injEq] at h
        obtain ⟨rfl, rfl, rfl⟩ := h
        have hall : n.properties = before ++ (k, v) :: after := by
          rw [← hsplit.1, ← hsplit.2, List.takeWhile_append_dropWhile]
        have hk : k = r.name := by
          have hhead := List.head?_dropWhile_not (fun e : String × Property => e.1 != r.name)
            n.properties
          rw [hsplit.2] at hhead
          simpa using hhead
        simp [revertUnbind, ← hk, ← hall]
    · cases h

theorem dropChild_addChild (n : Node) (c : Child) : (n.addChild c).dropChild = n := by
  simp [addChild, dropChild]

end Node

end Backtrack
