import Backtrack.Proofs.Tree.Slots
import Backtrack.Tree.Outline

/-!
What the references of a node stand for.  The properties of a node are what its
references bind, so the references resolve to the values in the order in which
they were bound, one after the other, and a reference that waits for its value is
the only one that stands for nothing.
-/

namespace Backtrack

/-- Pair the children with the values that the references stand for in turn.  A
reference past the last value stands for nothing. -/
def Child.pair : List Child → List Outline → List OutlineItem
  | [], _ => []
  | .literal text :: rest, values => .literal text :: pair rest values
  | .reference r :: rest, [] => .unbound r :: pair rest []
  | .reference r :: rest, value :: values => .bound r value :: pair rest values

/-- Only as many values are used as there are references. -/
theorem Child.pair_append (before after : List Child) (values : List Outline) :
    pair (before ++ after) values =
      pair before (values.take (before.filterMap reference?).length) ++
        pair after (values.drop (before.filterMap reference?).length) := by
  induction before generalizing values with
  | nil => rfl
  | cons child rest ih =>
      cases child with
      | literal text =>
          simp only [List.cons_append, pair, ih, List.filterMap_cons, reference?]
      | reference r =>
          cases values with
          | nil => simpa [pair, reference?] using ih []
          | cons value values =>
              simp only [List.cons_append, pair, ih, List.filterMap_cons, reference?,
                List.length_cons, List.take_succ_cons, List.drop_succ_cons]

theorem Child.mem_pair {children : List Child} {values : List Outline} {item : OutlineItem}
    (hlength : (children.filterMap reference?).length = values.length)
    (h : item ∈ pair children values) :
    (∃ text, item = .literal text) ∨ ∃ r, ∃ value ∈ values, item = .bound r value := by
  induction children generalizing values with
  | nil => cases h
  | cons child rest ih =>
      cases child with
      | literal text =>
          rcases List.mem_cons.mp h with rfl | h
          · exact Or.inl ⟨text, rfl⟩
          · exact ih hlength h
      | reference r =>
          cases values with
          | nil => cases hlength
          | cons value values =>
              rcases List.mem_cons.mp h with rfl | h
              · exact Or.inr ⟨r, value, List.mem_cons_self, rfl⟩
              · rcases ih (Nat.succ.inj hlength) h with hliteral | ⟨r', other, hother, hitem⟩
                · exact Or.inl hliteral
                · exact Or.inr ⟨r', other, List.mem_cons_of_mem _ hother, hitem⟩

/-! ## Resolving -/

theorem Property.lookup_outlineBindings (ps : List (String × Property)) (name : String) :
    (Property.outlineBindings ps).lookup name = (ps.lookup name).map Property.outline := by
  induction ps with
  | nil => rfl
  | cons entry rest ih =>
      obtain ⟨k, v⟩ := entry
      rw [Property.outlineBindings, List.lookup_cons, List.lookup_cons, ih]
      split <;> rfl

theorem Property.outlineList_eq_map (values : List Property) :
    Property.outlineList values = values.map Property.outline := by
  induction values with
  | nil => rfl
  | cons value rest ih => rw [Property.outlineList, ih, List.map_cons]

namespace Outline

theorem takeNext_of_cons {name : String} {left : List (String × Outline)} {value : Outline}
    {values : List Outline} (h : left.lookup name = some (.list (value :: values))) :
    ∃ left', takeNext name left = (some value, left') ∧
      left'.lookup name = some (.list values) ∧
      ∀ other, other ≠ name → left'.lookup other = left.lookup other := by
  induction left with
  | nil => cases h
  | cons entry rest ih =>
      obtain ⟨k, v⟩ := entry
      by_cases hk : k = name
      · subst hk
        rw [List.lookup_cons_self, Option.some.injEq] at h
        subst h
        refine ⟨(k, .list values) :: rest, by simp [takeNext], List.lookup_cons_self, ?_⟩
        intro other hother
        rw [List.lookup_cons, List.lookup_cons, beq_false_of_ne hother]
      · have hbeq : (name == k) = false := beq_false_of_ne (Ne.symm hk)
        rw [List.lookup_cons, hbeq] at h
        obtain ⟨left', htake, hlookup, hothers⟩ := ih h
        refine ⟨(k, v) :: left', by simp [takeNext, hk, htake], ?_, ?_⟩
        · rw [List.lookup_cons, hbeq]
          exact hlookup
        · intro other hother
          rw [List.lookup_cons, List.lookup_cons, hothers other hother]

theorem takeNext_of_none {name : String} {left : List (String × Outline)}
    (h : left.lookup name = none ∨ left.lookup name = some (.list [])) :
    (takeNext name left).1 = none := by
  induction left with
  | nil => rfl
  | cons entry rest ih =>
      obtain ⟨k, v⟩ := entry
      by_cases hk : k = name
      · subst hk
        rw [List.lookup_cons_self] at h
        rcases h with h | h
        · cases h
        · cases h
          simp [takeNext]
      · have hbeq : (name == k) = false := beq_false_of_ne (Ne.symm hk)
        rw [List.lookup_cons, hbeq] at h
        simp [takeNext, hk, ih h]

/-- The values that are still to come, of those bound through `r`. -/
def toCome (r : Reference) (bound : List (Reference × Property)) : List Outline :=
  (bound.filter (·.1 == r)).map (·.2.outline)

theorem toCome_cons_self (r : Reference) (value : Property)
    (bound : List (Reference × Property)) :
    toCome r ((r, value) :: bound) = value.outline :: toCome r bound := by
  simp [toCome]

theorem toCome_cons_of_ne {r r' : Reference} (h : r' ≠ r) (value : Property)
    (bound : List (Reference × Property)) :
    toCome r ((r', value) :: bound) = toCome r bound := by
  simp [toCome, h]

/-- What is needed to give each of `bound` its value, in this order, and `waiting`
none.  An array reference takes from `left`, a single one looks up `bindings`. -/
structure Supplies (bindings left : List (String × Outline))
    (bound : List (Reference × Property)) (waiting : Option Reference) : Prop where
  single : ∀ b ∈ bound, b.1.isArray = false → bindings.lookup b.1.name = some b.2.outline
  array : ∀ b ∈ bound, b.1.isArray = true → left.lookup b.1.name = some (.list (toCome b.1 bound))
  waiting_single : ∀ r, waiting = some r → r.isArray = false → bindings.lookup r.name = none
  waiting_array : ∀ r, waiting = some r → r.isArray = true →
    left.lookup r.name = some (.list (toCome r bound)) ∨
      left.lookup r.name = none ∧ toCome r bound = []

theorem supplies_nil (bindings left : List (String × Outline)) :
    Supplies bindings left [] none where
  single := by simp
  array := by simp
  waiting_single := by simp
  waiting_array := by simp

theorem Supplies.tail_single {bindings left : List (String × Outline)} {r : Reference}
    {value : Property} {bound : List (Reference × Property)} {waiting : Option Reference}
    (h : Supplies bindings left ((r, value) :: bound) waiting) (hr : r.isArray = false) :
    Supplies bindings left bound waiting := by
  have hne : ∀ r' : Reference, r'.isArray = true → r ≠ r' := by
    rintro r' hr' rfl
    rw [hr] at hr'
    cases hr'
  refine ⟨fun b hb => h.single b (List.mem_cons_of_mem _ hb), ?_, h.waiting_single, ?_⟩
  · intro b hb hb'
    rw [h.array b (List.mem_cons_of_mem _ hb) hb', toCome_cons_of_ne (hne b.1 hb')]
  · intro r' hr' harray
    have hwaiting := h.waiting_array r' hr' harray
    rwa [toCome_cons_of_ne (hne r' harray)] at hwaiting

theorem Supplies.tail_array {bindings left left' : List (String × Outline)} {r : Reference}
    {value : Property} {bound : List (Reference × Property)} {waiting : Option Reference}
    (h : Supplies bindings left ((r, value) :: bound) waiting) (hr : r.isArray = true)
    (hself : left'.lookup r.name = some (.list (toCome r bound)))
    (hothers : ∀ name, name ≠ r.name → left'.lookup name = left.lookup name) :
    Supplies bindings left' bound waiting := by
  have hname : ∀ r' : Reference, r'.isArray = true → r ≠ r' → r'.name ≠ r.name := by
    intro r' hr' hne hname
    cases r
    cases r'
    simp_all
  refine ⟨fun b hb => h.single b (List.mem_cons_of_mem _ hb), ?_, h.waiting_single, ?_⟩
  · intro b hb hb'
    by_cases hb₁ : r = b.1
    · rw [← hb₁, hself]
    · rw [hothers _ (hname b.1 hb' hb₁), h.array b (List.mem_cons_of_mem _ hb) hb',
        toCome_cons_of_ne hb₁]
  · intro r' hr' harray
    by_cases hr₁ : r = r'
    · subst hr₁
      exact Or.inl hself
    · have hwaiting := h.waiting_array r' hr' harray
      rwa [toCome_cons_of_ne hr₁, ← hothers _ (hname r' harray hr₁)] at hwaiting

theorem Supplies.resolve_waiting {bindings left : List (String × Outline)} {r : Reference}
    (h : Supplies bindings left [] (some r)) (rest : List Child) :
    resolve bindings left (.reference r :: rest) =
      .unbound r :: resolve bindings (if r.isArray then (takeNext r.name left).2 else left)
        rest := by
  by_cases harray : r.isArray = true
  · have hnone : (takeNext r.name left).1 = none := by
      apply takeNext_of_none
      rcases h.waiting_array r rfl harray with hlist | hnone
      · exact Or.inr hlist
      · exact Or.inl hnone.1
    simp [resolve, harray, hnone, OutlineItem.ofOption]
  · rw [Bool.not_eq_true] at harray
    have hnone := h.waiting_single r rfl harray
    simp [resolve, harray, hnone, OutlineItem.ofOption]

/-- References that have their values stand for them in turn, and the one that
waits stands for nothing. -/
theorem resolve_eq_pair {bindings left : List (String × Outline)} {children : List Child}
    {bound : List (Reference × Property)} {waiting : Option Reference}
    (h : Supplies bindings left bound waiting)
    (hreferences : children.filterMap Child.reference? = bound.map (·.1) ++ waiting.toList) :
    resolve bindings left children = Child.pair children (bound.map (·.2.outline)) := by
  induction children generalizing left bound waiting with
  | nil => rfl
  | cons child rest ih =>
      cases child with
      | literal text => rw [resolve, Child.pair, ih h hreferences]
      | reference r =>
          have hcons : r :: rest.filterMap Child.reference? =
              bound.map (·.1) ++ waiting.toList := hreferences
          cases bound with
          | nil =>
              -- The reference that waits is the last one.
              have hwaiting : waiting = some r := by
                cases waiting with
                | none => cases hcons
                | some r' => exact congrArg some (List.cons.inj hcons).1.symm
              have hrest : rest.filterMap Child.reference? = [] := by
                rw [hwaiting] at hcons
                exact (List.cons.inj hcons).2
              subst hwaiting
              rw [h.resolve_waiting, ih (supplies_nil _ _) hrest]
              rfl
          | cons binding bound =>
              obtain ⟨r', value⟩ := binding
              obtain ⟨rfl, hrest⟩ := List.cons.inj hcons
              by_cases harray : r.isArray = true
              · have hlist := h.array (r, value) List.mem_cons_self harray
                rw [toCome_cons_self] at hlist
                obtain ⟨left', htake, hself, hothers⟩ := takeNext_of_cons hlist
                have htail := h.tail_array harray hself hothers
                have hresolve : resolve bindings left (.reference r :: rest) =
                    .bound r value.outline :: resolve bindings left' rest := by
                  simp [resolve, harray, htake, OutlineItem.ofOption]
                rw [hresolve, ih htail hrest]
                rfl
              · rw [Bool.not_eq_true] at harray
                have hsome := h.single (r, value) List.mem_cons_self harray
                have htail := h.tail_single harray
                have hresolve : resolve bindings left (.reference r :: rest) =
                    .bound r value.outline :: resolve bindings left rest := by
                  simp [resolve, harray, hsome, OutlineItem.ofOption]
                rw [hresolve, ih htail hrest]
                rfl

end Outline

namespace Node

theorem Binds.lookup_array {bound : List (Reference × Property)} {ps : List (String × Property)}
    (h : Binds bound ps) : ∀ b ∈ bound, b.1.isArray = true →
      ∃ items, ps.lookup b.1.name = some (.list items) := by
  induction h with
  | nil => simp
  | @single bound ps r value _ hsingle _ _ ih =>
      rw [List.forall_mem_cons]
      refine ⟨fun harray => by simp [hsingle] at harray, fun b hb harray => ?_⟩
      obtain ⟨items, hitems⟩ := ih b hb harray
      exact ⟨items, by simp [List.lookup_append, hitems]⟩
  | @first bound ps r value _ _ hnone ih =>
      rw [List.forall_mem_cons]
      refine ⟨fun _ => ⟨_, lookup_append_single _ hnone⟩, fun b hb harray => ?_⟩
      obtain ⟨items, hitems⟩ := ih b hb harray
      exact ⟨items, by simp [List.lookup_append, hitems]⟩
  | @next bound ps r value old _ _ hold ih =>
      rw [List.forall_mem_cons]
      refine ⟨fun _ => ⟨_, lookup_updateList_self _ hold⟩, fun b hb harray => ?_⟩
      by_cases hname : b.1.name = r.name
      · exact ⟨_, by rw [hname, lookup_updateList_self _ hold]⟩
      · obtain ⟨items, hitems⟩ := ih b hb harray
        exact ⟨items, by rw [lookup_updateList_of_ne _ _ hname, hitems]⟩

theorem Binds.lookup_single {bound : List (Reference × Property)} {ps : List (String × Property)}
    (h : Binds bound ps) : ∀ b ∈ bound, b.1.isArray = false →
      ps.lookup b.1.name = some b.2 ∧ b.2.isList = false := by
  induction h with
  | nil => simp
  | @single bound ps r value _ _ hnone hvalue ih =>
      rw [List.forall_mem_cons]
      refine ⟨fun _ => ⟨lookup_append_single _ hnone, hvalue⟩, fun b hb hsingle => ?_⟩
      obtain ⟨hlookup, hlist⟩ := ih b hb hsingle
      exact ⟨by simp [List.lookup_append, hlookup], hlist⟩
  | @first bound ps r value _ harray _ ih =>
      rw [List.forall_mem_cons]
      refine ⟨fun hsingle => by simp [harray] at hsingle, fun b hb hsingle => ?_⟩
      obtain ⟨hlookup, hlist⟩ := ih b hb hsingle
      exact ⟨by simp [List.lookup_append, hlookup], hlist⟩
  | @next bound ps r value items _ harray hitems ih =>
      rw [List.forall_mem_cons]
      refine ⟨fun hsingle => by simp [harray] at hsingle, fun b hb hsingle => ?_⟩
      obtain ⟨hlookup, hlist⟩ := ih b hb hsingle
      have hname : b.1.name ≠ r.name := by
        intro hname
        rw [hname, hitems, Option.some.injEq] at hlookup
        rw [← hlookup] at hlist
        cases hlist
      exact ⟨by rw [lookup_updateList_of_ne _ _ hname, hlookup], hlist⟩

/-- A list holds the values bound through the array reference, oldest first. -/
theorem Binds.eq_of_lookup_list {bound : List (Reference × Property)}
    {ps : List (String × Property)} {r : Reference} {items : List Property} (h : Binds bound ps)
    (hr : r.isArray = true) (hlookup : ps.lookup r.name = some (.list items)) :
    items = (bound.reverse.filter (·.1 == r)).map (·.2) := by
  have hne : ∀ r' : Reference, r'.isArray = true → r'.name ≠ r.name → (r' == r) = false := by
    intro r' _ hname
    exact beq_false_of_ne fun heq => hname (congrArg Reference.name heq)
  induction h generalizing items with
  | nil => cases hlookup
  | @single bound ps r' value _ hsingle hnone hvalue ih =>
      have hr' : (r' == r) = false := by
        apply beq_false_of_ne
        rintro rfl
        rw [hr] at hsingle
        cases hsingle
      rw [List.lookup_append] at hlookup
      cases hold : ps.lookup r.name with
      | some old =>
          rw [hold, Option.some_or, Option.some.injEq] at hlookup
          rw [hlookup] at hold
          simp [ih hold, hr']
      | none =>
          rw [hold, Option.none_or, List.lookup_cons] at hlookup
          split at hlookup
          · cases hlookup
            cases hvalue
          · cases hlookup
  | @first bound ps r' value hbinds harray hnone ih =>
      by_cases hname : r'.name = r.name
      · have heq : r' = r := by
          cases r
          cases r'
          simp_all
        subst heq
        rw [lookup_append_single _ hnone] at hlookup
        have hfilter : bound.reverse.filter (·.1 == r') = [] := by
          rw [List.filter_eq_nil_iff]
          intro b hb hb'
          rw [beq_iff_eq] at hb'
          obtain ⟨items, hitems⟩ :=
            hbinds.lookup_array b (List.mem_reverse.mp hb) (by rw [hb', harray])
          rw [hb', hnone] at hitems
          cases hitems
        cases hlookup
        simp [hfilter]
      · rw [List.lookup_append, List.lookup_cons, beq_false_of_ne (Ne.symm hname)] at hlookup
        have hold : ps.lookup r.name = some (.list items) := by simpa using hlookup
        simp [ih hold, hne r' harray hname]
  | @next bound ps r' value old hbinds harray hitems ih =>
      by_cases hname : r'.name = r.name
      · have heq : r' = r := by
          cases r
          cases r'
          simp_all
        subst heq
        rw [lookup_updateList_self _ hitems] at hlookup
        cases hlookup
        simp [ih hitems]
      · rw [lookup_updateList_of_ne _ _ (Ne.symm hname)] at hlookup
        simp [ih hlookup, hne r' harray hname]

theorem Binds.toCome_eq {bound : List (Reference × Property)} {ps : List (String × Property)}
    {r : Reference} {items : List Property} (h : Binds bound ps) (hr : r.isArray = true)
    (hlookup : ps.lookup r.name = some (.list items)) :
    (Property.outlineBindings ps).lookup r.name =
      some (.list (Outline.toCome r bound.reverse)) := by
  rw [Property.lookup_outlineBindings, hlookup, Option.map_some, Property.outline,
    Property.outlineList_eq_map, h.eq_of_lookup_list hr hlookup, Outline.toCome, List.map_map]
  rfl

theorem Binds.toCome_eq_nil {bound : List (Reference × Property)} {ps : List (String × Property)}
    {r : Reference} (h : Binds bound ps) (hr : r.isArray = true)
    (hnone : ps.lookup r.name = none) : Outline.toCome r bound.reverse = [] := by
  rw [Outline.toCome, List.map_eq_nil_iff, List.filter_eq_nil_iff]
  intro b hb hb'
  rw [beq_iff_eq] at hb'
  obtain ⟨items, hitems⟩ := h.lookup_array b (List.mem_reverse.mp hb) (by rw [hb', hr])
  rw [hb', hnone] at hitems
  cases hitems

theorem Binds.supplies {bound : List (Reference × Property)} {ps : List (String × Property)}
    (h : Binds bound ps) :
    Outline.Supplies (Property.outlineBindings ps) (Property.outlineBindings ps) bound.reverse
      none where
  single := by
    intro b hb hsingle
    rw [Property.lookup_outlineBindings, (h.lookup_single b (List.mem_reverse.mp hb) hsingle).1]
    rfl
  array := by
    intro b hb harray
    obtain ⟨items, hitems⟩ := h.lookup_array b (List.mem_reverse.mp hb) harray
    exact h.toCome_eq harray hitems
  waiting_single := by simp
  waiting_array := by simp

theorem Vacant.supplies {bound : List (Reference × Property)} {r : Reference}
    {ps after : List (String × Property)} (h : Vacant r ps after) (hbinds : Binds bound ps) :
    Outline.Supplies (Property.outlineBindings after) (Property.outlineBindings after)
      bound.reverse (some r) := by
  have hbound := hbinds.supplies
  cases h with
  | unbound hnone =>
      have hlookup : (Property.outlineBindings ps).lookup r.name = none := by
        rw [Property.lookup_outlineBindings, hnone, Option.map_none]
      refine ⟨hbound.single, hbound.array, ?_, ?_⟩
      · rintro _ ⟨⟩ _
        exact hlookup
      · rintro _ ⟨⟩ harray
        exact Or.inr ⟨hlookup, hbinds.toCome_eq_nil harray hnone⟩
  | listed harray hitems =>
      refine ⟨hbound.single, hbound.array, ?_, ?_⟩
      · rintro _ ⟨⟩ hsingle
        rw [harray] at hsingle
        cases hsingle
      · rintro _ ⟨⟩ _
        exact Or.inl (hbinds.toCome_eq harray hitems)
  | emptied harray hnone =>
      have hlookup : ∀ {name : String} {value : Outline},
          (Property.outlineBindings ps).lookup name = some value →
          (Property.outlineBindings (ps ++ [(r.name, .list [])])).lookup name = some value := by
        intro name value hname
        rw [Property.lookup_outlineBindings] at hname ⊢
        rw [List.lookup_append]
        cases hps : ps.lookup name with
        | none => simp [hps] at hname
        | some old => simpa [hps] using hname
      refine ⟨fun b hb hsingle => hlookup (hbound.single b hb hsingle),
        fun b hb hb' => hlookup (hbound.array b hb hb'), ?_, ?_⟩
      · rintro _ ⟨⟩ hsingle
        rw [harray] at hsingle
        cases hsingle
      · rintro _ ⟨⟩ _
        rw [hbinds.toCome_eq_nil harray hnone, Property.lookup_outlineBindings,
          lookup_append_single _ hnone]
        exact Or.inl rfl

/-! ## The outline of a node -/

theorem Filled.length_references {n : Node} {bound : List (Reference × Property)}
    (h : n.Filled bound) :
    (n.children.filterMap Child.reference?).length =
      (bound.reverse.map (·.2.outline)).length := by
  have hlength := congrArg List.length h.references
  simpa [Node.references] using hlength

theorem Filled.outline_eq {n : Node} {bound : List (Reference × Property)} (h : n.Filled bound) :
    n.outline = .node n.tag (Child.pair n.children (bound.reverse.map (·.2.outline))) := by
  have hreferences : n.children.filterMap Child.reference? =
      bound.reverse.map (·.1) ++ (none : Option Reference).toList := by
    rw [← Node.references, h.references, List.map_reverse, Option.toList_none, List.append_nil]
  rw [Node.outline, Property.ofNode, Property.outline,
    Outline.resolve_eq_pair h.binds.supplies hreferences]

theorem Awaiting.outline_eq {n : Node} {r : Reference} {bound : List (Reference × Property)}
    (h : n.Awaiting r bound) :
    n.outline = .node n.tag (Child.pair n.children (bound.reverse.map (·.2.outline))) := by
  obtain ⟨ps, hbinds, hvacant⟩ := h.vacant
  have hreferences : n.children.filterMap Child.reference? =
      bound.reverse.map (·.1) ++ (some r).toList := by
    rw [← Node.references, h.references, List.map_reverse, Option.toList_some]
  rw [Node.outline, Property.ofNode, Property.outline,
    Outline.resolve_eq_pair (hvacant.supplies hbinds) hreferences]

end Node

end Backtrack
