import Backtrack.Proofs.Engine.Course
import Backtrack.Proofs.Lists.Reader

/-!
The pieces of the strategy for lists: punctuation, white space, strings and words.
Each of them gets past what the reader finds and adds its nodes, or it gives up
inside of the node that was open.
-/

namespace Backtrack

namespace Lists

open Engine

variable {config : Config} {text : String} {cs : List Char} {regions regions' : Regions}
  {trail : Trail} {r : Reference} {tag : OpenTag}

/-! ## Terminals -/

variable {g : Patterns}

/-- The node has only references of the list. -/
def Among (allowed : List Reference) (trail : Trail) : Prop :=
  ∀ r ∈ trail.references, r ∈ allowed

theorem Among.isFree {allowed : List Reference} (h : Among allowed trail)
    (hr : r.isFree allowed = true) : r.isFree trail.references = true := by
  rw [Reference.isFree, List.all_eq_true] at hr ⊢
  exact fun earlier hearlier => hr earlier (h earlier hearlier)

theorem Among.mono {allowed more : List Reference} (h : Among allowed trail)
    (hmore : allowed ⊆ more) : Among more trail :=
  fun r hr => hmore (h r hr)

theorem Among.add {allowed : List Reference} (h : Among allowed trail) (hr : r ∈ allowed)
    (value : Outline) : Among allowed (trail.add (.bound r value)) := by
  intro s hs
  rw [Trail.references_add, List.mem_append] at hs
  rcases hs with hs | hs
  · exact h s hs
  · rw [List.mem_singleton.mp hs]
    exact hr

def opened (regions : Regions) (closing span : String) : Regions where
  spans := regions.spans.push { name := span, guard := some closing }
  balanced := { nodeType := "Punctuator", closer := closing, pushedSpan := true } ::
    regions.balanced

/-- The strategy gives up, with nothing but children added to the open node. -/
def GivesUp (config : Config) (text : String) (s : Strategy Bool) (cs : List Char)
    (regions : Regions) (trail : Trail) (below : List Spot) (cost : Nat) : Prop :=
  ∃ rest regions' items, Leads config text s (⟨cs, regions, .within trail⟩ :: below) false
    (⟨rest, regions', .within (trail.addItems items)⟩ :: below) cost

theorem GivesUp.mono {s : Strategy Bool} {below : List Spot} {m n : Nat}
    (h : GivesUp config text s cs regions trail below m) (hcost : m ≤ n) :
    GivesUp config text s cs regions trail below n := by
  obtain ⟨rest, regions', items, hleads⟩ := h
  exact ⟨rest, regions', items, hleads.mono hcost⟩

end Lists

end Backtrack
