import Backtrack.Proofs.Lists.Pieces

/-!
The strategy for lists reads as the reader does.  Wherever the reader finds a
value, the strategy gets past it and has added its tree.  Where the reader finds
none, the strategy ends up where it was and has bound null.  The number of
instructions is bounded by the length of the text that is looked at.
-/

namespace Backtrack

namespace Lists

open Engine

variable {config : Config} {text : String} {cs : List Char} {regions : Regions}
  {trail : Trail} {r : Reference} {below : List Spot}

/-! ## Alternatives -/

variable {g : Patterns} {item : Strategy Bool} {rounds : Nat} {kind : Kind} {kinds : List Kind}

/-- The guard is the closing bracket of a list, if there is one. -/
def InList (regions : Regions) : Prop :=
  ∀ word, regions.spans.guard = some word → word = "]"

theorem inList_opened (regions : Regions) (span : String) : InList (opened regions "]" span) := by
  intro word hword
  cases hword
  rfl

/-- What a value needs: lists may nest deeper than the text is long, the text is
inside of a list or of nothing, and there are frames for every bracket in it. -/
structure Ready (config : Config) (depth : Nat) (cs : List Char) (regions : Regions)
    (below : List Spot) : Prop where
  depth : cs.length < depth
  inList : InList regions
  frames : below.length + cs.count '[' < config.maxBranchDepth

theorem Ready.opened {depth : Nat} (h : Ready config (depth + 1) ('[' :: cs) regions below)
    (spot : Spot) : Ready config depth cs (opened regions "]" "List") (spot :: below) := by
  obtain ⟨hdepth, _, hframes⟩ := h
  rw [List.length_cons] at hdepth
  rw [List.count_cons_self] at hframes
  exact ⟨by omega, inList_opened regions "List", by rw [List.length_cons]; omega⟩

/-- The strategy reads values as the reader does, and binds them through the
reference.  Each character that is read pays for what is done about it, also for
the kinds that were tried before. -/
structure Reads (config : Config) (text : String) (item : Strategy Bool) (r : Reference)
    (depth : Nat) : Prop where
  found : ∀ {cs regions trail below value rest}, Ready config depth cs regions below →
    r.isFree trail.references = true →
    readValue config.matchWindow depth cs = some (value, rest) →
    Leads config text item (⟨cs, regions, .within trail⟩ :: below) true
      (⟨rest, regions, .within (trail.add (.bound r value))⟩ :: below)
      (64 * (cs.length - rest.length))
  missing : ∀ {cs regions trail below}, Ready config depth cs regions below →
    r.isFree trail.references = true →
    readValue config.matchWindow depth cs = none →
    Leads config text item (⟨cs, regions, .within trail⟩ :: below) false
      (⟨cs, regions, .within (trail.add (.bound r .null))⟩ :: below) (64 * cs.length + 48)

variable {depth : Nat} {cs₁ cs₂ : List Char}

theorem Ready.branches (h : Ready config depth cs regions below) :
    below.length + 1 ≤ config.maxBranchDepth := by
  have hframes := h.frames
  omega

end Lists

end Backtrack
