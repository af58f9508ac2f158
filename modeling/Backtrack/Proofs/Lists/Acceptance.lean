import Backtrack.Proofs.Lists.Reading

/-!
The language of the strategy for lists.  A run over a text that is all there ends
with the tree of the text if the text is in the language, and otherwise it fails
because input is left.  There is no other failure as long as the instructions and
the frames do not run out.  64 instructions for every character are enough, and one
frame more than there are opening brackets.
-/

namespace Backtrack

namespace Lists

open Engine

variable {config : Config} {text : String} {cs : List Char} {regions : Regions} {g : Patterns}

/-! ## Documents -/

end Lists

end Backtrack
