import Backtrack.Proofs.Tree.Inverse

/-!
What the properties of a node can look like.  They are the values bound to its
references, in the order of the references, and nothing else: a node in which
every reference has its value is filled, and a node whose last reference has none
awaits one.  Binding a value fills a node that awaits one, and taking the last
value out makes a filled node await one again.
-/

namespace Backtrack

def Child.reference? : Child → Option Reference
  | .literal _ => none
  | .reference r => some r

def Property.isList : Property → Bool
  | .list _ => true
  | _ => false

namespace Node

def references (n : Node) : List Reference := n.children.filterMap Child.reference?

/-- The properties that binding the given values one after the other makes.  The
values are listed latest first. -/
inductive Binds : List (Reference × Property) → List (String × Property) → Prop
  | nil : Binds [] []
  | single {bound : List (Reference × Property)} {ps : List (String × Property)}
      {r : Reference} {value : Property} :
      Binds bound ps → r.isArray = false → ps.lookup r.name = none → value.isList = false →
      Binds ((r, value) :: bound) (ps ++ [(r.name, value)])
  | first {bound : List (Reference × Property)} {ps : List (String × Property)}
      {r : Reference} {value : Property} :
      Binds bound ps → r.isArray = true → ps.lookup r.name = none →
      Binds ((r, value) :: bound) (ps ++ [(r.name, .list [value])])
  | next {bound : List (Reference × Property)} {ps : List (String × Property)}
      {r : Reference} {value : Property} {items : List Property} :
      Binds bound ps → r.isArray = true → ps.lookup r.name = some (.list items) →
      Binds ((r, value) :: bound) (updateList r.name (· ++ [value]) ps)

end Node

/-- Values as they are bound to a reference: never a list, and in every node the
properties are what its references bind. -/
inductive Property.Proper : Property → Prop
  | null : Proper .null
  | gap : Proper .gap
  | node {tag : OpenTag} {children : List Child} {properties : List (String × Property)}
      (bound : List (Reference × Property)) :
      children.filterMap Child.reference? = (bound.map (·.1)).reverse →
      Node.Binds bound properties → (∀ b ∈ bound, Proper b.2) →
      Proper (.node tag children properties)

theorem Property.Proper.isList_eq_false {value : Property} (h : value.Proper) :
    value.isList = false := by
  cases h <;> rfl

namespace Node

/-- `after` is `ps` with the slot of `r` ready for a value.  Taking the only value
out of an array slot leaves an empty list behind. -/
inductive Vacant (r : Reference) (ps : List (String × Property)) :
    List (String × Property) → Prop
  | unbound : ps.lookup r.name = none → Vacant r ps ps
  | listed {items : List Property} :
      r.isArray = true → ps.lookup r.name = some (.list items) → Vacant r ps ps
  | emptied : r.isArray = true → ps.lookup r.name = none →
      Vacant r ps (ps ++ [(r.name, .list [])])

/-- Every reference has its value, and `bound` lists them, latest first. -/
structure Filled (n : Node) (bound : List (Reference × Property)) : Prop where
  references : n.references = (bound.map (·.1)).reverse
  binds : Binds bound n.properties
  proper : ∀ b ∈ bound, b.2.Proper

/-- The last reference, which is `r`, has no value.  The others have theirs. -/
structure Awaiting (n : Node) (r : Reference) (bound : List (Reference × Property)) : Prop where
  references : n.references = (bound.map (·.1)).reverse ++ [r]
  vacant : ∃ ps, Binds bound ps ∧ Vacant r ps n.properties
  proper : ∀ b ∈ bound, b.2.Proper

/-! ## Looking up and extending -/

theorem lookup_append_single {name : String} {ps : List (String × Property)}
    (value : Property) (h : ps.lookup name = none) :
    (ps ++ [(name, value)]).lookup name = some value := by
  simp [List.lookup_append, h]

theorem updateList_append_single {name : String} {ps : List (String × Property)}
    (items : List Property) (f : List Property → List Property) (h : ps.lookup name = none) :
    updateList name f (ps ++ [(name, .list items)]) = ps ++ [(name, .list (f items))] := by
  induction ps with
  | nil => simp [updateList]
  | cons head rest ih =>
      obtain ⟨k, v⟩ := head
      by_cases hk : k = name
      · subst hk
        simp at h
      · rw [List.lookup_cons, beq_false_of_ne (Ne.symm hk)] at h
        simp only [List.cons_append, updateList, beq_iff_eq, hk, if_false, ih h]

theorem updateList_dropLast_append (name : String) (value : Property)
    (ps : List (String × Property)) :
    updateList name List.dropLast (updateList name (· ++ [value]) ps) = ps := by
  rw [updateList_updateList]
  exact updateList_eq_self (fun items _ => by simp)

/-! ## From one to the other -/

theorem filled_ofTag (tag : OpenTag) : Filled { tag } [] :=
  { references := rfl, binds := .nil, proper := by simp }

theorem Filled.proper_ofNode {n : Node} {bound : List (Reference × Property)}
    (h : n.Filled bound) : (Property.ofNode n).Proper :=
  .node bound h.references h.binds h.proper

theorem Filled.addLiteral {n : Node} {bound : List (Reference × Property)} (h : n.Filled bound)
    (text : String) : (n.addChild (.literal text)).Filled bound where
  references := by
    rw [← h.references]
    simp [Node.references, addChild, Child.reference?]
  binds := h.binds
  proper := h.proper

theorem vacant_of_checkBindable {n : Node} {r : Reference} (h : n.checkBindable r = .ok ()) :
    Vacant r n.properties n.properties := by
  unfold checkBindable at h
  split at h
  · next hnone => exact .unbound hnone
  · next items hitems =>
      by_cases harray : r.isArray = true
      · exact .listed harray hitems
      · simp [harray] at h
  · cases h

theorem Filled.addReference {n : Node} {r : Reference} {bound : List (Reference × Property)}
    (h : n.Filled bound) (hfree : n.checkBindable r = .ok ()) :
    (n.addChild (.reference r)).Awaiting r bound where
  references := by
    rw [← h.references]
    simp [Node.references, addChild, Child.reference?]
  vacant := ⟨n.properties, h.binds, vacant_of_checkBindable hfree⟩
  proper := h.proper

/-- A slot without a value takes any value, and then the node is filled. -/
theorem Awaiting.bind {n : Node} {r : Reference} {bound : List (Reference × Property)}
    {value : Property} (h : n.Awaiting r bound) (hvalue : value.Proper) :
    ∃ properties how, n.bind r value = .ok ({ n with properties }, how) ∧
      Filled { n with properties } ((r, value) :: bound) := by
  obtain ⟨ps, hbinds, hvacant⟩ := h.vacant
  have hreferences : n.references = (((r, value) :: bound).map (·.1)).reverse := by
    simpa using h.references
  have hproper : ∀ b ∈ (r, value) :: bound, b.2.Proper := by
    intro b hb
    rcases List.mem_cons.mp hb with rfl | hb
    · exact hvalue
    · exact h.proper b hb
  generalize hps : n.properties = props at hvacant
  cases hvacant with
  | unbound hnone =>
      have hprop : n.property? r.name = none := by rw [property?, hps, hnone]
      by_cases harray : r.isArray = true
      · refine ⟨ps ++ [(r.name, .list [value])], .created, ?_,
          hreferences, .first hbinds harray hnone, hproper⟩
        simp [Node.bind, checkBindable, hprop, harray, Bind.bind, Except.bind, pure, Except.pure,
          hps]
      · rw [Bool.not_eq_true] at harray
        refine ⟨ps ++ [(r.name, value)], .created, ?_,
          hreferences, .single hbinds harray hnone hvalue.isList_eq_false, hproper⟩
        simp [Node.bind, checkBindable, hprop, harray, Bind.bind, Except.bind, pure, Except.pure,
        hps]
  | @listed items harray hitems =>
      have hprop : n.property? r.name = some (.list items) := by rw [property?, hps, hitems]
      refine ⟨updateList r.name (· ++ [value]) ps, .appended, ?_,
        hreferences, .next hbinds harray hitems, hproper⟩
      simp [Node.bind, checkBindable, hprop, harray, Bind.bind, Except.bind, pure, Except.pure,
        hps]
  | emptied harray hnone =>
      have hprop : n.property? r.name = some (.list []) := by
        rw [property?, hps, lookup_append_single _ hnone]
      refine ⟨ps ++ [(r.name, .list [value])], .appended, ?_,
        hreferences, .first hbinds harray hnone, hproper⟩
      have hupdate := updateList_append_single [] (· ++ [value]) hnone
      simp only [List.nil_append] at hupdate
      simp [Node.bind, checkBindable, hprop, harray, Bind.bind, Except.bind, pure, Except.pure,
        hps, hupdate]

/-- The value bound last can be taken out, and then the node awaits one. -/
theorem Filled.unbind {n : Node} {r : Reference} {value : Property}
    {bound : List (Reference × Property)} (h : n.Filled ((r, value) :: bound)) :
    ∃ properties how, n.unbind r = some (value, { n with properties }, how) ∧
      Awaiting { n with properties } r bound := by
  have hreferences : n.references = (bound.map (·.1)).reverse ++ [r] := by
    simpa using h.references
  have hproper : ∀ b ∈ bound, b.2.Proper :=
    fun b hb => h.proper b (List.mem_cons_of_mem _ hb)
  have hbinds := h.binds
  generalize hps : n.properties = props at hbinds
  cases hbinds with
  | @single _ ps _ _ hbinds harray hnone hvalue =>
      refine ⟨ps, .removed ps.length, ?_, hreferences, ⟨ps, hbinds, .unbound hnone⟩, hproper⟩
      have hne : ∀ e ∈ ps, (e.1 != r.name) = true := by
        intro e he
        have hne := List.lookup_eq_none_iff.mp hnone e he
        simpa [bne_comm] using hne
      simp [Node.unbind, harray, hps, List.span_eq_takeWhile_dropWhile,
        List.takeWhile_append_of_pos hne, List.dropWhile_append_of_pos hne]
  | @first _ ps _ _ hbinds harray hnone =>
      refine ⟨ps ++ [(r.name, .list [])], .popped, ?_,
        hreferences, ⟨ps, hbinds, .emptied harray hnone⟩, hproper⟩
      have hprop : n.property? r.name = some (.list [value]) := by
        rw [property?, hps, lookup_append_single _ hnone]
      have hupdate := updateList_append_single [value] List.dropLast hnone
      simp only [List.dropLast_singleton] at hupdate
      simp [Node.unbind, harray, hprop, lastItem?, hps, hupdate]
  | @next _ ps _ _ items hbinds harray hitems =>
      refine ⟨ps, .popped, ?_, hreferences, ⟨ps, hbinds, .listed harray hitems⟩, hproper⟩
      have hprop : n.property? r.name = some (.list (items ++ [value])) := by
        rw [property?, hps, lookup_updateList_self _ hitems]
      simp [Node.unbind, harray, hprop, lastItem?, hps, updateList_dropLast_append]

/-! ## What is bound decides the properties -/

theorem Binds.unique {bound : List (Reference × Property)}
    {ps ps' : List (String × Property)} (h : Binds bound ps) (h' : Binds bound ps') :
    ps = ps' := by
  induction h generalizing ps' with
  | nil =>
      cases h'
      rfl
  | @single bound ps r value _ hsingle _ _ ih =>
      cases h' with
      | single hbinds' _ _ _ => rw [ih hbinds']
      | first _ harray _ => simp [hsingle] at harray
      | next _ harray _ => simp [hsingle] at harray
  | @first bound ps r value _ harray hnone ih =>
      cases h' with
      | single _ hsingle _ _ => simp [harray] at hsingle
      | first hbinds' _ _ => rw [ih hbinds']
      | next hbinds' _ hitems =>
          rw [← ih hbinds', hnone] at hitems
          cases hitems
  | @next bound ps r value items _ harray hitems ih =>
      cases h' with
      | single _ hsingle _ _ => simp [harray] at hsingle
      | first hbinds' _ hnone =>
          rw [← ih hbinds', hitems] at hnone
          cases hnone
      | next hbinds' _ _ => rw [ih hbinds']

/-- A slot that was emptied and one that never had a value take a value alike. -/
theorem Awaiting.bind_eq {n : Node} {properties : List (String × Property)} {r : Reference}
    {bound : List (Reference × Property)} {value : Property} (h : n.Awaiting r bound)
    (h' : Awaiting { n with properties } r bound) (hvalue : value.Proper) :
    ∃ m how how', n.bind r value = .ok (m, how) ∧
      Node.bind { n with properties } r value = .ok (m, how') := by
  obtain ⟨ps, how, hbind, hfilled⟩ := h.bind hvalue
  obtain ⟨ps', how', hbind', hfilled'⟩ := h'.bind hvalue
  have hsame : ps = ps' := hfilled.binds.unique hfilled'.binds
  rw [← hsame] at hbind'
  exact ⟨_, how, how', hbind, hbind'⟩

end Node

end Backtrack
