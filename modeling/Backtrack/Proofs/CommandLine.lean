import Backtrack.CommandLine
import Backtrack.Proofs.Engine.Forward
import Backtrack.Proofs.Engine.Streaming

/-!
What is printed does not depend on how the input arrives.  A run over an input in
pieces is the run over the whole, as long as the places that it asks for can be
counted.  A window that reaches beyond all numbers is counted from zero again, and
then a regular expression is tried on what happens to be there.
-/

namespace Backtrack

/-! ## The strategy of the list language never pauses -/

namespace Strategy

variable {α β : Type}

theorem Prompt.bind {s : Strategy α} {f : α → Strategy β} (h : s.Prompt)
    (hf : ∀ a, (f a).Prompt) : Prompt (s >>= f) := by
  induction h with
  | done => exact hf _
  | ask _ ih => exact .ask ih

end Strategy

namespace Lists

open Strategy

variable (g : Patterns)

variable {g} {item : Strategy Bool}

end Lists

/-! ## The channel -/

namespace CommandLine

end CommandLine

/-! ## Runs -/

namespace Engine

end Engine

end Backtrack
