import Backtrack.Proofs.Entries
import Backtrack.Proofs.Tree.Resolve

/-!
Well-formed trees.  In every node the properties are named like the references,
in the order in which the names first come up.  A name has either one reference,
and then a value that is no list, or array references only, and then a list with
one value for each of them.  These are exactly the trees that binding values to
references makes, so in a well-formed tree every reference stands for a value.
-/

namespace Backtrack

namespace Property

/-- The values of a slot, one for each reference to it. -/
def values : Property → List Property
  | .list items => items
  | value => [value]

theorem values_of_isList {value : Property} (h : value.isList = false) :
    value.values = [value] := by
  cases value with
  | list items => cases h
  | _ => rfl

/-- The value of a slot suits the references to it: a single one has a value that
is a node, null or a gap, and array references have a list of as many of these. -/
inductive Fits : Property → List Reference → Prop
  | single {r : Reference} {value : Property} :
      r.isArray = false → value.isList = false → Fits value [r]
  | array {rs : List Reference} {items : List Property} :
      rs ≠ [] → (∀ r ∈ rs, r.isArray = true) → items.length = rs.length →
      (∀ value ∈ items, value.isList = false) → Fits (.list items) rs

end Property

namespace Node

def values (n : Node) : List Property := n.properties.flatMap (·.2.values)

/-- The references called `name`, in order. -/
def referencesTo (n : Node) (name : String) : List Reference :=
  n.references.filter (·.name == name)

/-- The properties of a node suit its references. -/
structure SlotsFit (n : Node) : Prop where
  distinct : (n.properties.map (·.1)).Nodup
  /-- There is a property for every name, and they come in the order of the first
  references of these names. -/
  ordered : n.properties.map (·.1) = (n.references.map (·.name)).eraseDups
  fits : ∀ p ∈ n.properties, p.2.Fits (n.referencesTo p.1)

/-- `Within m n` says that `m` is `n` or stands somewhere below it. -/
inductive Within (m : Node) : Node → Prop
  | self : Within m m
  | inside {n k : Node} : .ofNode n ∈ k.values → Within m n → Within m k

end Node

/-- A node, null or a gap in which the slots of all nodes fit. -/
inductive Property.WellFormed : Property → Prop
  | null : WellFormed .null
  | gap : WellFormed .gap
  | node {tag : OpenTag} {children : List Child} {properties : List (String × Property)} :
      Node.SlotsFit { tag, children, properties } →
      (∀ value ∈ Node.values { tag, children, properties }, WellFormed value) →
      WellFormed (.node tag children properties)

theorem Property.WellFormed.slotsFit {n : Node} (h : (Property.ofNode n).WellFormed) :
    n.SlotsFit ∧ ∀ value ∈ n.values, value.WellFormed := by
  obtain ⟨tag, children, properties⟩ := n
  cases h with
  | node hslots hvalues => exact ⟨hslots, hvalues⟩

namespace Node

theorem Within.wellFormed {m n : Node} (h : m.Within n) (hn : (Property.ofNode n).WellFormed) :
    (Property.ofNode m).WellFormed := by
  induction h with
  | self => exact hn
  | inside hmem _ ih => exact ih (hn.slotsFit.2 _ hmem)

/-! ## Names -/

theorem eraseDups_append_single (names : List String) (name : String) :
    (names ++ [name]).eraseDups =
      names.eraseDups ++ (if name ∈ names then [] else [name]) := by
  have hremove : [name].removeAll names = if name ∈ names then [] else [name] := by
    by_cases hmem : name ∈ names <;> simp [List.removeAll, hmem]
  rw [List.eraseDups_append, hremove]
  by_cases hmem : name ∈ names
  · rw [if_pos hmem]
    rfl
  · rw [if_neg hmem]
    rfl

theorem map_fst_updateList (name : String) (f : List Property → List Property)
    (ps : List (String × Property)) : (updateList name f ps).map (·.1) = ps.map (·.1) := by
  induction ps with
  | nil => rfl
  | cons head rest ih =>
      obtain ⟨k, v⟩ := head
      by_cases hk : k = name
      · subst hk
        cases v <;> simp [updateList]
      · simp only [updateList, beq_iff_eq, hk, if_false, List.map_cons, ih]

/-- The entries `ps` suit the references `rs`, which are listed latest first. -/
structure Slots (rs : List Reference) (ps : List (String × Property)) : Prop where
  ordered : ps.map (·.1) = (rs.map (·.name)).reverse.eraseDups
  fits : ∀ {name : String} {value : Property}, ps.lookup name = some value →
    value.Fits (rs.reverse.filter (·.name == name))

theorem filter_reverse_cons (r : Reference) (rs : List Reference) (name : String) :
    (r :: rs).reverse.filter (·.name == name) =
      rs.reverse.filter (·.name == name) ++ (if r.name = name then [r] else []) := by
  rw [List.reverse_cons, List.filter_append]
  by_cases hname : r.name = name <;> simp [hname]

theorem Slots.lookup_eq_none_iff {rs : List Reference} {ps : List (String × Property)}
    (h : Slots rs ps) {name : String} :
    ps.lookup name = none ↔ rs.reverse.filter (·.name == name) = [] := by
  rw [lookup_eq_none_iff_key, h.ordered, List.mem_eraseDups, List.filter_eq_nil_iff]
  constructor
  · intro hnone r hr hname
    apply hnone
    rw [List.mem_reverse, List.mem_map]
    exact ⟨r, List.mem_reverse.mp hr, beq_iff_eq.mp hname⟩
  · intro hall hmem
    obtain ⟨r, hr, hname⟩ := List.mem_map.mp (List.mem_reverse.mp hmem)
    exact hall r (List.mem_reverse.mpr hr) (beq_iff_eq.mpr hname)

theorem Slots.mem_names_iff {rs : List Reference} {ps : List (String × Property)}
    (h : Slots rs ps) {name : String} :
    name ∈ (rs.map (·.name)).reverse ↔ ps.lookup name ≠ none := by
  rw [Ne, lookup_eq_none_iff_key, h.ordered, List.mem_eraseDups, not_not]

/-! ## What is bound fits -/

theorem Slots.append {rs : List Reference} {ps : List (String × Property)} {r : Reference}
    {value : Property} (h : Slots rs ps) (hnone : ps.lookup r.name = none)
    (hvalue : value.Fits [r]) : Slots (r :: rs) (ps ++ [(r.name, value)]) where
  ordered := by
    have hnew : r.name ∉ (rs.map (·.name)).reverse := fun hmem => h.mem_names_iff.mp hmem hnone
    rw [List.map_append, h.ordered, List.map_cons (f := fun r : Reference => r.name),
      List.reverse_cons, eraseDups_append_single, if_neg hnew]
    rfl
  fits := by
    intro name other hlookup
    rw [filter_reverse_cons]
    by_cases hname : r.name = name
    · subst hname
      rw [lookup_append_single _ hnone, Option.some.injEq] at hlookup
      rw [h.lookup_eq_none_iff.mp hnone, if_pos rfl, List.nil_append, ← hlookup]
      exact hvalue
    · rw [List.lookup_append, List.lookup_cons, beq_false_of_ne (Ne.symm hname)] at hlookup
      rw [if_neg hname, List.append_nil]
      exact h.fits (by simpa using hlookup)

/-- Another array reference adds a value to its list. -/
theorem Slots.extend {rs : List Reference} {ps : List (String × Property)} {r : Reference}
    {value : Property} {items : List Property} (h : Slots rs ps) (harray : r.isArray = true)
    (hitems : ps.lookup r.name = some (.list items)) (hvalue : value.isList = false) :
    Slots (r :: rs) (updateList r.name (· ++ [value]) ps) where
  ordered := by
    have hold : r.name ∈ (rs.map (·.name)).reverse := by
      rw [h.mem_names_iff, hitems]
      simp
    rw [map_fst_updateList, h.ordered, List.map_cons, List.reverse_cons,
      eraseDups_append_single, if_pos hold, List.append_nil]
  fits := by
    intro name other hlookup
    rw [filter_reverse_cons]
    by_cases hname : r.name = name
    · subst hname
      rw [lookup_updateList_self _ hitems, Option.some.injEq] at hlookup
      have hslot := h.fits hitems
      rw [if_pos rfl, ← hlookup]
      generalize rs.reverse.filter (·.name == r.name) = earlier at hslot ⊢
      cases hslot with
      | single _ hlist => cases hlist
      | array hne hall hlength hvalues =>
          refine .array (by simp) ?_ (by simp [hlength]) ?_
          · intro r' hr'
            rcases List.mem_append.mp hr' with hr' | hr'
            · exact hall r' hr'
            · rw [List.mem_singleton.mp hr', harray]
          · intro v hv
            rcases List.mem_append.mp hv with hv | hv
            · exact hvalues v hv
            · rw [List.mem_singleton.mp hv, hvalue]
    · rw [lookup_updateList_of_ne _ _ (Ne.symm hname)] at hlookup
      rw [if_neg hname, List.append_nil]
      exact h.fits hlookup

theorem Binds.slots {bound : List (Reference × Property)} {ps : List (String × Property)}
    (h : Binds bound ps) (hbound : ∀ b ∈ bound, b.2.isList = false) :
    Slots (bound.map (·.1)) ps := by
  induction h with
  | nil => exact ⟨rfl, fun hlookup => nomatch hlookup⟩
  | single _ hsingle hnone hvalue ih =>
      rw [List.forall_mem_cons] at hbound
      exact (ih hbound.2).append hnone (.single hsingle hvalue)
  | first _ harray hnone ih =>
      rw [List.forall_mem_cons] at hbound
      exact (ih hbound.2).append hnone
        (.array (by simp) (by simpa using harray) rfl (by simpa using hbound.1))
  | next _ harray hitems ih =>
      rw [List.forall_mem_cons] at hbound
      exact (ih hbound.2).extend harray hitems hbound.1

theorem Binds.distinct {bound : List (Reference × Property)} {ps : List (String × Property)}
    (h : Binds bound ps) : (ps.map (·.1)).Nodup := by
  have hadd : ∀ {ps : List (String × Property)} {name : String} (value : Property),
      (ps.map (·.1)).Nodup → ps.lookup name = none →
        ((ps ++ [(name, value)]).map (·.1)).Nodup := by
    intro ps name value hps hnone
    rw [List.map_append, List.nodup_append]
    refine ⟨hps, by simp, ?_⟩
    intro a ha b hb hab
    rw [List.map_singleton, List.mem_singleton] at hb
    subst hab hb
    exact lookup_eq_none_iff_key.mp hnone ha
  induction h with
  | nil => exact List.nodup_nil
  | single _ _ hnone _ ih => exact hadd _ ih hnone
  | first _ _ hnone ih => exact hadd _ ih hnone
  | next _ _ _ ih => rwa [map_fst_updateList]

theorem Filled.slotsFit {n : Node} {bound : List (Reference × Property)} (h : n.Filled bound) :
    n.SlotsFit := by
  have hslots := h.binds.slots fun b hb => (h.proper b hb).isList_eq_false
  refine ⟨h.binds.distinct, ?_, ?_⟩
  · rw [hslots.ordered, h.references, List.map_reverse]
  · intro p hp
    rw [referencesTo, h.references]
    exact hslots.fits (lookup_of_mem h.binds.distinct hp)

theorem mem_values_of_updateList {name : String} {f : List Property → List Property}
    {ps : List (String × Property)} {items : List Property} {value : Property}
    (hdistinct : (ps.map (·.1)).Nodup) (hitems : ps.lookup name = some (.list items))
    (h : value ∈ (updateList name f ps).flatMap (·.2.values)) :
    value ∈ f items ∨ value ∈ ps.flatMap (·.2.values) := by
  obtain ⟨p, hp, hvalue⟩ := List.mem_flatMap.mp h
  rw [← map_fst_updateList name f] at hdistinct
  have hlookup := lookup_of_mem hdistinct hp
  by_cases hname : p.1 = name
  · rw [hname, lookup_updateList_self _ hitems, Option.some.injEq] at hlookup
    rw [← hlookup] at hvalue
    exact Or.inl hvalue
  · rw [lookup_updateList_of_ne _ _ hname] at hlookup
    exact Or.inr (List.mem_flatMap.mpr ⟨p, mem_of_lookup hlookup, hvalue⟩)

theorem mem_values_of_lookup {ps : List (String × Property)} {name : String}
    {items : List Property} {value : Property} (hitems : ps.lookup name = some (.list items))
    (h : value ∈ items) : value ∈ ps.flatMap (·.2.values) :=
  List.mem_flatMap.mpr ⟨(name, .list items), mem_of_lookup hitems, h⟩

/-- Every value of a slot was bound. -/
theorem Binds.mem_of_mem_values {bound : List (Reference × Property)}
    {ps : List (String × Property)} (h : Binds bound ps) :
    ∀ value ∈ ps.flatMap (·.2.values), ∃ b ∈ bound, b.2 = value := by
  induction h with
  | nil => simp
  | @single bound ps r new _ _ _ hnew ih =>
      intro value hvalue
      rw [List.flatMap_append, List.flatMap_singleton, Property.values_of_isList hnew] at hvalue
      rcases List.mem_append.mp hvalue with hvalue | hvalue
      · obtain ⟨b, hb, rfl⟩ := ih value hvalue
        exact ⟨b, List.mem_cons_of_mem _ hb, rfl⟩
      · exact ⟨(r, new), List.mem_cons_self, (List.mem_singleton.mp hvalue).symm⟩
  | @first bound ps r new _ _ _ ih =>
      intro value hvalue
      rw [List.flatMap_append, List.flatMap_singleton] at hvalue
      rcases List.mem_append.mp hvalue with hvalue | hvalue
      · obtain ⟨b, hb, rfl⟩ := ih value hvalue
        exact ⟨b, List.mem_cons_of_mem _ hb, rfl⟩
      · exact ⟨(r, new), List.mem_cons_self, (List.mem_singleton.mp hvalue).symm⟩
  | @next bound ps r new items hbinds _ hitems ih =>
      intro value hvalue
      have hold : value ∈ ps.flatMap (·.2.values) → ∃ b ∈ (r, new) :: bound, b.2 = value := by
        intro hvalue
        obtain ⟨b, hb, rfl⟩ := ih value hvalue
        exact ⟨b, List.mem_cons_of_mem _ hb, rfl⟩
      rcases mem_values_of_updateList hbinds.distinct hitems hvalue with hvalue | hvalue
      · rcases List.mem_append.mp hvalue with hvalue | hvalue
        · exact hold (mem_values_of_lookup hitems hvalue)
        · exact ⟨(r, new), List.mem_cons_self, (List.mem_singleton.mp hvalue).symm⟩
      · exact hold hvalue

/-! ## What fits can be bound -/

/-- If the name of the last reference is new, its slot comes last. -/
theorem Slots.exists_append {rs : List Reference} {ps : List (String × Property)} {r : Reference}
    (h : Slots (r :: rs) ps) (hnew : r.name ∉ (rs.map (·.name)).reverse) :
    ∃ before value, ps = before ++ [(r.name, value)] ∧ before.lookup r.name = none ∧
      value.Fits [r] ∧ Slots rs before := by
  have hordered := h.ordered
  rw [List.map_cons, List.reverse_cons, eraseDups_append_single, if_neg hnew] at hordered
  obtain ⟨before, after, rfl, hbefore, hafter⟩ := List.map_eq_append_iff.mp hordered
  obtain ⟨⟨name, value⟩, rfl, hname⟩ := List.map_eq_singleton_iff.mp hafter
  dsimp only at hname
  subst hname
  have hnone : before.lookup r.name = none := by
    rw [lookup_eq_none_iff_key, hbefore, List.mem_eraseDups]
    exact hnew
  have hrest : Slots rs before := by
    refine ⟨hbefore, ?_⟩
    intro name other hlookup
    have hne : r.name ≠ name := by
      rintro rfl
      rw [hnone] at hlookup
      cases hlookup
    have hslot := h.fits (by rw [List.lookup_append, hlookup, Option.some_or])
    rwa [filter_reverse_cons, if_neg hne, List.append_nil] at hslot
  have hvalue := h.fits (lookup_append_single value hnone)
  rw [filter_reverse_cons, if_pos rfl, hrest.lookup_eq_none_iff.mp hnone,
    List.nil_append] at hvalue
  exact ⟨before, value, rfl, hnone, hvalue, hrest⟩

/-- If the last reference has a name that came up before, its value is the last
one of a list. -/
theorem Slots.exists_extend {rs : List Reference} {ps : List (String × Property)} {r : Reference}
    (h : Slots (r :: rs) ps) (hold : r.name ∈ (rs.map (·.name)).reverse) :
    ∃ items value, r.isArray = true ∧ ps.lookup r.name = some (.list (items ++ [value])) ∧
      Slots rs (updateList r.name List.dropLast ps) := by
  have hordered := h.ordered
  rw [List.map_cons, List.reverse_cons, eraseDups_append_single, if_pos hold,
    List.append_nil] at hordered
  obtain ⟨slot, hlookup⟩ : ∃ slot, ps.lookup r.name = some slot := by
    rw [← Option.isSome_iff_exists, Option.isSome_iff_ne_none, Ne, lookup_eq_none_iff_key,
      hordered, List.mem_eraseDups, not_not]
    exact hold
  have hearlier : rs.reverse.filter (·.name == r.name) ≠ [] := by
    rw [Ne, List.filter_eq_nil_iff]
    intro hall
    obtain ⟨r', hr', hname⟩ := List.mem_map.mp (List.mem_reverse.mp hold)
    exact hall r' (List.mem_reverse.mpr hr') (beq_iff_eq.mpr hname)
  have hslot := h.fits hlookup
  rw [filter_reverse_cons, if_pos rfl] at hslot
  generalize hslots : rs.reverse.filter (·.name == r.name) ++ [r] = slots at hslot
  cases hslot with
  | single _ _ =>
      have hlength := congrArg List.length hslots
      rw [List.length_append, List.length_singleton, List.length_singleton] at hlength
      exact absurd (List.length_eq_zero_iff.mp (by omega)) hearlier
  | @array _ items _ hall hlength hvalues =>
      subst hslots
      have hne : items ≠ [] := by
        rintro rfl
        simp at hlength
      refine ⟨items.dropLast, items.getLast hne,
        hall r (List.mem_append_right _ (List.mem_singleton_self r)), ?_, ?_, ?_⟩
      · rw [List.dropLast_concat_getLast hne]
        exact hlookup
      · rw [map_fst_updateList, hordered]
      · intro name other hname
        by_cases heq : r.name = name
        · subst heq
          rw [lookup_updateList_self _ hlookup, Option.some.injEq] at hname
          rw [← hname]
          refine .array hearlier (fun r' hr' => hall r' (List.mem_append_left _ hr')) ?_
            fun v hv => hvalues v (List.dropLast_subset items hv)
          rw [List.length_dropLast, hlength, List.length_append, List.length_singleton,
            Nat.add_sub_cancel]
        · rw [lookup_updateList_of_ne _ _ (Ne.symm heq)] at hname
          have hslot := h.fits hname
          rwa [filter_reverse_cons, if_neg heq, List.append_nil] at hslot

/-- The last value of a list is the one bound last. -/
theorem Binds.of_dropLast {bound : List (Reference × Property)} {ps : List (String × Property)}
    {r : Reference} {items : List Property} {value : Property} (harray : r.isArray = true)
    (hlookup : ps.lookup r.name = some (.list (items ++ [value])))
    (hbinds : Binds bound (updateList r.name List.dropLast ps)) :
    Binds ((r, value) :: bound) ps := by
  have hdropped : (updateList r.name List.dropLast ps).lookup r.name = some (.list items) := by
    rw [lookup_updateList_self _ hlookup, List.dropLast_concat]
  have hback : updateList r.name (· ++ [value]) (updateList r.name List.dropLast ps) = ps := by
    rw [updateList_updateList]
    refine updateList_eq_self fun other hother => ?_
    rw [hlookup, Option.some.injEq, Property.list.injEq] at hother
    rw [← hother, List.dropLast_concat]
  have hnext : Binds ((r, value) :: bound)
      (updateList r.name (· ++ [value]) (updateList r.name List.dropLast ps)) :=
    .next hbinds harray hdropped
  rwa [hback] at hnext

/-- A slot with one reference holds one value. -/
theorem Binds.exists_of_append {bound : List (Reference × Property)}
    {before : List (String × Property)} {r : Reference} {value : Property}
    (hnone : before.lookup r.name = none) (hvalue : value.Fits [r]) (hbinds : Binds bound before) :
    ∃ item ∈ value.values, Binds ((r, item) :: bound) (before ++ [(r.name, value)]) := by
  generalize hslots : [r] = slots at hvalue
  cases hvalue with
  | single hsingle hlist =>
      cases hslots
      refine ⟨value, ?_, .single hbinds hsingle hnone hlist⟩
      rw [Property.values_of_isList hlist]
      exact List.mem_singleton_self _
  | array _ hall hlength hvalues =>
      subst hslots
      obtain ⟨item, rfl⟩ := List.length_eq_one_iff.mp hlength
      exact ⟨item, List.mem_singleton_self item,
        .first hbinds (hall r (List.mem_singleton_self r)) hnone⟩

/-- Slots that fit come of binding a value to each reference in turn. -/
theorem Slots.exists_binds {rs : List Reference} {ps : List (String × Property)}
    (h : Slots rs ps) :
    ∃ bound, bound.map (·.1) = rs ∧ Binds bound ps ∧
      ∀ b ∈ bound, b.2 ∈ ps.flatMap (·.2.values) := by
  -- The induction takes off the reference that was bound last.  Its value is the last of a
  -- list if its name came up before, and else the whole of the last slot.
  induction rs generalizing ps with
  | nil =>
      have hnil : ps = [] := List.map_eq_nil_iff.mp h.ordered
      subst hnil
      exact ⟨[], rfl, .nil, by simp⟩
  | cons r rs ih =>
      by_cases hold : r.name ∈ (rs.map (·.name)).reverse
      · obtain ⟨items, value, harray, hlookup, hrest⟩ := h.exists_extend hold
        obtain ⟨bound, rfl, hbinds, hmem⟩ := ih hrest
        refine ⟨(r, value) :: bound, rfl, hbinds.of_dropLast harray hlookup, ?_⟩
        rw [List.forall_mem_cons]
        refine ⟨mem_values_of_lookup hlookup (by simp), ?_⟩
        intro b hb
        have hdistinct : (ps.map (·.1)).Nodup := by
          rw [← map_fst_updateList r.name List.dropLast]
          exact hbinds.distinct
        rcases mem_values_of_updateList hdistinct hlookup (hmem b hb) with hb | hb
        · exact mem_values_of_lookup hlookup (List.dropLast_subset _ hb)
        · exact hb
      · obtain ⟨before, value, rfl, hnone, hvalue, hrest⟩ := h.exists_append hold
        obtain ⟨bound, rfl, hbinds, hmem⟩ := ih hrest
        obtain ⟨item, hitem, hnext⟩ := hbinds.exists_of_append hnone hvalue
        refine ⟨(r, item) :: bound, rfl, hnext, ?_⟩
        rw [List.forall_mem_cons, List.flatMap_append, List.flatMap_singleton]
        exact ⟨List.mem_append_right _ hitem, fun b hb => List.mem_append_left _ (hmem b hb)⟩

theorem SlotsFit.slots {n : Node} (h : n.SlotsFit) : Slots n.references.reverse n.properties where
  ordered := by
    rw [h.ordered, List.map_reverse, List.reverse_reverse]
  fits := by
    intro name value hlookup
    rw [List.reverse_reverse]
    exact h.fits (name, value) (mem_of_lookup hlookup)

end Node

/-- The well-formed values are those that can be bound. -/
theorem Property.proper_iff_wellFormed {value : Property} : value.Proper ↔ value.WellFormed := by
  constructor
  · intro h
    induction h with
    | null => exact .null
    | gap => exact .gap
    | @node tag children properties bound hreferences hbinds hproper ih =>
        have hfilled : Node.Filled { tag, children, properties } bound :=
          ⟨hreferences, hbinds, hproper⟩
        refine .node hfilled.slotsFit ?_
        intro value hvalue
        obtain ⟨b, hb, rfl⟩ := hbinds.mem_of_mem_values value hvalue
        exact ih b hb
  · intro h
    induction h with
    | null => exact .null
    | gap => exact .gap
    | @node tag children properties hslots hvalues ih =>
        obtain ⟨bound, hbound, hbinds, hmem⟩ := hslots.slots.exists_binds
        have hreferences : children.filterMap Child.reference? = (bound.map (·.1)).reverse := by
          rw [hbound, List.reverse_reverse]
          rfl
        exact .node bound hreferences hbinds fun b hb => ih b.2 (hmem b hb)

end Backtrack
