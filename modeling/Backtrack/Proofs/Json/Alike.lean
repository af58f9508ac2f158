import Backtrack.Json.Basic
import Backtrack.Proofs.Entries
import Mathlib.Data.List.Forall2

/-!
Stored data up to the order of members.  The members of an object have no order, so two
forms that differ only in how the members of their objects are ordered say the same.
Reading a record asks for its fields by name and does not notice the difference.
-/

namespace Backtrack

namespace Json

mutual
/-- The two forms differ at most in the order of the members of their objects. -/
inductive Alike : Json → Json → Prop
  | null : Alike .null .null
  | bool (b : Bool) : Alike (.bool b) (.bool b)
  | int (n : Int) : Alike (.int n) (.int n)
  | decimal (mantissa : Int) (scale : Nat) :
      Alike (.decimal mantissa scale) (.decimal mantissa scale)
  | str (s : String) : Alike (.str s) (.str s)
  | arr {items items' : List Json} : AlikeItems items items' → Alike (.arr items) (.arr items')
  | obj {members ordered members' : List (String × Json)} :
      AlikeMembers members ordered → ordered.Perm members' → Alike (.obj members) (.obj members')

inductive AlikeItems : List Json → List Json → Prop
  | nil : AlikeItems [] []
  | cons {j j' : Json} {items items' : List Json} :
      Alike j j' → AlikeItems items items' → AlikeItems (j :: items) (j' :: items')

/-- The same keys in the same order, with forms under them that are alike. -/
inductive AlikeMembers : List (String × Json) → List (String × Json) → Prop
  | nil : AlikeMembers [] []
  | cons {key : String} {j j' : Json} {members members' : List (String × Json)} :
      Alike j j' → AlikeMembers members members' →
      AlikeMembers ((key, j) :: members) ((key, j') :: members')
end

mutual
theorem Alike.refl (j : Json) : j.Alike j := by
  cases j with
  | null => exact .null
  | bool b => exact .bool b
  | int n => exact .int n
  | decimal mantissa scale => exact .decimal mantissa scale
  | str s => exact .str s
  | arr items => exact .arr (AlikeItems.refl items)
  | obj members => exact .obj (AlikeMembers.refl members) (List.Perm.refl members)

theorem AlikeItems.refl (items : List Json) : AlikeItems items items := by
  cases items with
  | nil => exact .nil
  | cons j rest => exact .cons (Alike.refl j) (AlikeItems.refl rest)

theorem AlikeMembers.refl (members : List (String × Json)) : AlikeMembers members members := by
  cases members with
  | nil => exact .nil
  | cons member rest =>
      obtain ⟨key, j⟩ := member
      exact .cons (Alike.refl j) (AlikeMembers.refl rest)
end

/-! ## Records and choices -/

theorem AlikeMembers.keys_eq {members members' : List (String × Json)}
    (h : AlikeMembers members members') : members'.map (·.1) = members.map (·.1) := by
  induction members generalizing members' with
  | nil =>
      cases h
      rfl
  | cons member rest ih =>
      cases h with
      | cons _ hrest => simp [ih hrest]

theorem AlikeMembers.forall₂ {members members' : List (String × Json)}
    (h : AlikeMembers members members') :
    List.Forall₂ Alike (members.map (·.2)) (members'.map (·.2)) := by
  induction members generalizing members' with
  | nil =>
      cases h
      exact .nil
  | cons member rest ih =>
      cases h with
      | cons hvalue hrest => exact .cons hvalue (ih hrest)

theorem Alike.exists_fields (names : List String) {members : List (String × Json)} {j : Json}
    (h : (Json.obj members).Alike j) (hnames : members.map (·.1) = names)
    (hdistinct : names.Nodup) :
    ∃ values, j.fields? names = some (values.map some) ∧
      List.Forall₂ Alike (members.map (·.2)) values := by
  cases h with
  | @obj _ ordered members' hordered hperm =>
      have hkeys : ordered.map (·.1) = names := hordered.keys_eq.trans hnames
      have hdistinct' : (members'.map (·.1)).Nodup := by
        rw [← hkeys] at hdistinct
        exact (hperm.map (·.1)).nodup_iff.mp hdistinct
      refine ⟨ordered.map (·.2), ?_, hordered.forall₂⟩
      rw [fields?, ← hkeys, List.map_map, List.map_map]
      refine congrArg some (List.map_congr_left fun member hmember => ?_)
      exact lookup_of_mem hdistinct' (hperm.mem_iff.mp hmember)

theorem Alike.exists_body {name : String} {body j : Json}
    (h : (Json.obj [(name, body)]).Alike j) : ∃ body', j = .obj [(name, body')] ∧
      body.Alike body' := by
  cases h with
  | obj hmembers hperm =>
      cases hmembers with
      | cons hbody hrest =>
          cases hrest
          exact ⟨_, by rw [List.singleton_perm.mp hperm], hbody⟩

theorem Alike.eq_str {s : String} {j : Json} (h : (Json.str s).Alike j) : j = .str s := by
  cases h
  rfl

end Json

namespace Codec

variable {α : Type} [Codec α]

/-- The value is read from every form like the one it is stored in. -/
def ReadsBack (a : α) : Prop := ∀ j : Json, (encode a).Alike j → decode? j = some a

/-- Values that are read back have forms of their own. -/
theorem ReadsBack.eq_of_alike {a b : α} (ha : ReadsBack a) (hb : ReadsBack b)
    (h : (encode a).Alike (encode b)) : a = b := by
  have hread := ha _ h
  rw [hb _ (Json.Alike.refl _)] at hread
  exact (Option.some.inj hread).symm

/-! ## Plain values -/

theorem readsBack_bool (b : Bool) : ReadsBack b := by
  intro j h
  cases h
  rfl

theorem readsBack_string (s : String) : ReadsBack s := by
  intro j h
  cases h
  rfl

theorem natBelow?_natCast {bound n : Nat} (h : n < bound) :
    Json.natBelow? bound (.int n) = some n := by
  rw [Json.natBelow?, if_pos ⟨Int.natCast_nonneg n, by exact_mod_cast h⟩, Int.toNat_natCast]

theorem readsBack_nat {n : Nat} (h : n < UInt64.size) : ReadsBack n := by
  intro j hj
  cases hj
  exact natBelow?_natCast h

theorem readsBack_uint32 (n : UInt32) : ReadsBack n := by
  intro j hj
  cases hj
  show (Json.natBelow? UInt32.size (.int n.toNat)).map UInt32.ofNat = some n
  rw [natBelow?_natCast n.toNat_lt, Option.map_some, UInt32.ofNat_toNat]

/-- An absent value is stored as null, so null must not be the form of a value. -/
theorem ReadsBack.option {o : Option α} (h : ∀ a ∈ o, ReadsBack a)
    (hnull : (decode? .null : Option α) = none) : ReadsBack o := by
  intro j hj
  cases o with
  | none =>
      cases hj
      rfl
  | some a =>
      have hread : decode? j = some a := h a rfl j hj
      have hne : j ≠ .null := by
        rintro rfl
        rw [hnull] at hread
        cases hread
      show optionalField? (some j) = some (some a)
      cases j with
      | null => exact absurd rfl hne
      | _ => simp [optionalField?, hread]

theorem mapM_of_forall₂ {β γ : Type} {f : β → Option γ} {items : List β} {values : List γ}
    (h : List.Forall₂ (fun item value => f item = some value) items values) :
    items.mapM f = some values := by
  induction h with
  | nil => rfl
  | cons hitem _ ih =>
      rw [List.mapM_cons, hitem, ih]
      rfl

theorem ReadsBack.list {items : List α} (h : ∀ a ∈ items, ReadsBack a) : ReadsBack items := by
  intro j hj
  cases hj with
  | @arr _ forms hforms =>
      apply mapM_of_forall₂
      induction items generalizing forms with
      | nil =>
          cases hforms
          exact .nil
      | cons a rest ih =>
          rw [List.forall_mem_cons] at h
          cases hforms with
          | cons hform hrest => exact .cons (h.1 _ hform) (ih h.2 hrest)

theorem ReadsBack.field? {a : α} {j : Json} (h : ReadsBack a) (hj : (encode a).Alike j) :
    Codec.field? (some j) = some a := h j hj

theorem ReadsBack.optionalField? {o : Option α} {j : Json} (h : ReadsBack o)
    (hj : (encode o).Alike j) : Codec.optionalField? (some j) = some o := h j hj

end Codec

end Backtrack
