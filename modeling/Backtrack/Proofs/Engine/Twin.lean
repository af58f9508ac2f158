import Backtrack.Proofs.Builder.Twin
import Backtrack.Proofs.Engine.Paired

/-!
Engines that differ in attributes.  No instruction can see the attributes of a tree, except
that closing a node may end a span that its attributes have begun, and in twins it ends one
in both or in none.  Setting an attribute in one of them keeps twins as long as it does not
decide on a span.
-/

namespace Backtrack

namespace Engine

variable {e e' : Engine}

theorem repairSlot?_bare (b : Builder) (rejected : Path) :
    repairSlot? b.bare rejected = repairSlot? b rejected := by
  have hlast : b.bare.last? = b.last? := rfl
  have hreference : repairReference? b.bare rejected = repairReference? b rejected := by
    simp only [repairReference?, Builder.path_bare, Builder.node?_bare, hlast, Option.isSome_map]
  have hneeds : needsRepair b.bare = needsRepair b := by
    funext r
    rw [needsRepair, needsRepair, Builder.node?_bare, Builder.parentNode?_bare, ← Option.map_or,
      hlast]
    cases b.node?.or b.parentNode? with
    | none => rfl
    | some n =>
        simp only [Option.map_some, Node.hasProperty_bare]
        rfl
  rw [repairSlot?, repairSlot?, hreference, hneeds]

theorem hidden_twin : Hidden BuildState.Twin where
  toCoupled := BuildState.coupled_twin
  path h := h.path_eq
  last h := h.last?_eq
  nodeType h := by
    have hnode := congrArg (Option.map (·.tag.nodeType)) h.node?_eq
    simpa only [Option.map_map, Function.comp_def, Node.bare, OpenTag.bare] using hnode
  slot {b c} h rejected := by
    rw [← repairSlot?_bare b, ← repairSlot?_bare c]
    exact repairSlot?_eq_of_state h.bare rejected
  endsSpan h := h.endsSpan_eq

/-- The same but for the attributes of the tree and the number of instructions. -/
abbrev Twin (e e' : Engine) : Prop := e.Paired BuildState.Twin e'

theorem twin_start (config : Config) : (start config).Twin (start config) :=
  paired_start ⟨rfl, .nil⟩ config

theorem Twin.annotated (h : e.Twin e') {key : String} {value : Value} {builder : Builder}
    {answer : Emitted} (hbind : e'.builder.bindAttribute key value = (builder, .ok answer))
    (hkeeps : e'.builder.KeepsSpan key value) :
    e.Twin { e' with builder, executed := e'.executed + 1 } :=
  ⟨h.frames, h.frame, Nat.le_succ_of_le h.executed,
    Builder.Twin.annotated h.builder hbind hkeeps⟩

end Engine

end Backtrack
