import Backtrack.Proofs.Engine.Levels

/-!
Repairs.  A repair binds a slot of the open node to null.  It does so exactly when
the rejected path went on from this node along a reference that has no property
there.  While a reference waits for its value no node is open, but the rule still
looks at the node around it, and then the repair cannot be made.
-/

namespace Backtrack

namespace Engine

/-- The rejected path goes on from the open node along `r`, which the node knows
nothing of. -/
structure Backfills (builder : Builder) (rejected : Path) (n : Node) (r : Reference) : Prop where
  node : builder.node? = some n
  deeper : builder.path.depth < rejected.depth
  same : (rejected.at? builder.path.depth).map (·.id) =
    (builder.path.at? builder.path.depth).map (·.id)
  reference : (rejected.at? (builder.path.depth + 1)).bind (·.reference) = some r
  unbound : n.hasProperty r.name = false
  exempt : n.tag.flags.exemptFromRepair = false

/-- A reference waits for its value, and the rejected path leads along `r`, which
the node around it knows nothing of.  Right after a reference `r` is what the
rejected path has in its place; after a shift it is what comes next. -/
structure Stranded (builder : Builder) (rejected : Path) (n : Node) (r : Reference) : Prop where
  pending : builder.node? = none
  node : builder.parentNode? = some n
  deeper : builder.path.depth < rejected.depth
  reference :
    if (builder.last?.bind Terminal.reference?).isSome then
      (rejected.at? builder.path.depth).bind (·.reference) = some r
    else (rejected.at? (builder.path.depth + 1)).bind (·.reference) = some r
  other : ∀ waiting, builder.last? = some (.reference waiting) → waiting.name ≠ r.name
  unbound : n.hasProperty r.name = false
  exempt : n.tag.flags.exemptFromRepair = false

/-- The slot that a repair would bind, if it would bind one. -/
def repairSlot? (builder : Builder) (rejected : Path) : Option Reference :=
  (repairReference? builder rejected).filter (needsRepair builder)

/-! ## Only the tree matters -/

theorem repairSlot?_eq_of_state {b c : Builder} (h : b.state = c.state) (rejected : Path) :
    repairSlot? b rejected = repairSlot? c rejected := by
  obtain ⟨state, _, _, _⟩ := b
  obtain ⟨state', _, _, _⟩ := c
  cases h
  rfl

/-! ## When a slot is repaired -/

theorem isEmpty_path_of_segments {builder : Builder} {segment : Segment} {rest : List Segment}
    (h : builder.state.segments = segment :: rest) : builder.path.isEmpty = false := by
  simp [Builder.path, Path.isEmpty, h]

theorem reference?_last_of_node {builder : Builder} {n : Node} (h : builder.state.Shaped)
    (hnode : builder.node? = some n) : builder.last?.bind Terminal.reference? = none := by
  obtain ⟨segment, rest, hsegments, hsegment⟩ := Builder.openTop?_of_node? hnode
  cases hlast : builder.state.last with
  | none => simp [Builder.last?, hlast]
  | some t =>
      cases t with
      | reference r =>
          obtain ⟨top, below, htop, hpending⟩ := h.last_pending r hlast
          rw [hsegments] at htop
          cases htop
          rw [hsegment] at hpending
          cases hpending
      | _ => simp [Builder.last?, hlast, Terminal.reference?]

theorem repairSlot?_eq_some_of_node {builder : Builder} {rejected : Path} {n : Node}
    {r : Reference} (h : builder.state.Shaped) (hnode : builder.node? = some n) :
    repairSlot? builder rejected = some r ↔ Backfills builder rejected n r := by
  obtain ⟨segment, rest, hsegments, _⟩ := Builder.openTop?_of_node? hnode
  have hempty := isEmpty_path_of_segments hsegments
  have hlast := reference?_last_of_node h hnode
  have hneeds : needsRepair builder r = true ↔
      n.hasProperty r.name = false ∧ n.tag.flags.exemptFromRepair = false := by
    simp [needsRepair, hnode, hlast]
  rw [repairSlot?, Option.filter_eq_some_iff, hneeds]
  simp only [repairReference?, hempty, hnode, hlast, Bool.false_or, Option.isSome_some,
    Bool.true_and, Option.isSome_none, Bool.false_eq_true, if_false]
  constructor
  · rintro ⟨hreference, hunbound, hexempt⟩
    split at hreference
    · cases hreference
    · next hdeeper =>
        split at hreference
        · cases hreference
        · next hsame =>
            have hlt : builder.path.depth < rejected.depth := by simpa using hdeeper
            rw [Nat.min_eq_left hlt] at hreference
            exact ⟨hnode, hlt, by simpa using hsame, hreference, hunbound, hexempt⟩
  · intro hbackfills
    have hlt := hbackfills.deeper
    refine ⟨?_, hbackfills.unbound, hbackfills.exempt⟩
    rw [if_neg (by simpa using hlt), if_neg (by simpa using hbackfills.same),
      Nat.min_eq_left hlt]
    exact hbackfills.reference

theorem repairSlot?_eq_none_of_segments {builder : Builder} (rejected : Path)
    (h : builder.state.segments = []) : repairSlot? builder rejected = none := by
  have hempty : builder.path.isEmpty = true := by simp [Builder.path, Path.isEmpty, h]
  simp [repairSlot?, repairReference?, hempty]

theorem exists_parentNode {builder : Builder} {segment : Segment} {rest : List Segment}
    (h : builder.state.Shaped) (hsegments : builder.state.segments = segment :: rest)
    (hnode : segment.node = none) : ∃ n, builder.parentNode? = some n := by
  obtain ⟨_, r, hreference⟩ := h.pending hsegments hnode
  obtain ⟨parent, below, n, _, rfl, hparent, _⟩ := h.parent hsegments hreference
  exact ⟨n, by simp [Builder.parentNode?, hsegments, hparent]⟩

theorem repairSlot?_eq_some_of_pending {builder : Builder} {rejected : Path} {r : Reference}
    (h : builder.state.Shaped) (hnode : builder.node? = none) :
    repairSlot? builder rejected = some r ↔ ∃ n, Stranded builder rejected n r := by
  cases hsegments : builder.state.segments with
  | nil =>
      rw [repairSlot?_eq_none_of_segments rejected hsegments]
      simp only [reduceCtorEq, false_iff]
      rintro ⟨n, hstranded⟩
      have hparent := hstranded.node
      simp [Builder.parentNode?, hsegments] at hparent
  | cons segment rest =>
      have hpending : segment.node = none := by
        simpa [Builder.node?, hsegments] using hnode
      obtain ⟨n, hparent⟩ := exists_parentNode h hsegments hpending
      have hempty := isEmpty_path_of_segments hsegments
      have hneeds : needsRepair builder r = true ↔ n.hasProperty r.name = false ∧
          (∀ waiting, builder.last? = some (.reference waiting) → waiting.name ≠ r.name) ∧
          n.tag.flags.exemptFromRepair = false := by
        have hother : ((builder.last?.bind Terminal.reference?).any fun last =>
            last.name == r.name) = false ↔
            ∀ waiting, builder.last? = some (.reference waiting) → waiting.name ≠ r.name := by
          cases hlast : builder.last? with
          | none => simp
          | some t => cases t <;> simp [Terminal.reference?]
        simp only [needsRepair, hnode, hparent, Option.none_or, Bool.and_eq_true,
          Bool.not_eq_true', hother, and_assoc]
      rw [repairSlot?, Option.filter_eq_some_iff, hneeds]
      simp only [repairReference?, hempty, hnode, Bool.false_or, Option.isSome_none,
        Bool.false_and, Bool.false_eq_true, if_false]
      constructor
      · rintro ⟨hreference, hunbound, hother, hexempt⟩
        split at hreference
        · cases hreference
        · next hdeeper =>
            have hlt : builder.path.depth < rejected.depth := by simpa using hdeeper
            refine ⟨n, hnode, hparent, hlt, ?_, hother, hunbound, hexempt⟩
            split
            · next hafter =>
                rwa [if_pos hafter, Nat.add_zero, Nat.min_eq_left (Nat.le_of_lt hlt)] at hreference
            · next hafter =>
                rwa [if_neg hafter, Nat.min_eq_left hlt] at hreference
      · rintro ⟨m, hstranded⟩
        have hm : m = n := Option.some.inj (hstranded.node.symm.trans hparent)
        subst hm
        have hlt := hstranded.deeper
        have hreference := hstranded.reference
        refine ⟨?_, hstranded.unbound, hstranded.other, hstranded.exempt⟩
        rw [if_neg (by simpa using hlt)]
        split at hreference
        · next hafter => rwa [if_pos hafter, Nat.add_zero, Nat.min_eq_left (Nat.le_of_lt hlt)]
        · next hafter => rwa [if_neg hafter, Nat.min_eq_left hlt]

end Engine

end Backtrack
