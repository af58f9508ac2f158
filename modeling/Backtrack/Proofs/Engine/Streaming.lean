import Backtrack.Proofs.Engine.Reach
import Backtrack.Proofs.Input.Completion

/-!
Streaming does not change a parse.  The place of every live frame is always known
one unit ahead, so nothing that an instruction finds out about the input depends
on how much of it has arrived.  A run over an input that arrives in pieces, with
waits between them, therefore issues the same instructions, gets the same answers
and ends in the same way as the run over the whole input.
-/

namespace Backtrack

/-! ## Frames only carry what they were given -/

namespace FrameStack

variable {α : Type}

theorem current_mem_carried (s : FrameStack α) : s.current ∈ s.carried := by
  cases habove : s.above <;> simp [carried, live, current, top, habove]

theorem mem_carried_modify {s : FrameStack α} {f : α → α} {a : α}
    (h : a ∈ (s.modify f).carried) : a = f s.current ∨ a ∈ s.carried := by
  cases habove : s.above with
  | nil =>
      have ha : a = f s.base.payload := by simpa [carried, live, modify, habove] using h
      exact Or.inl (by simpa [current, top, habove] using ha)
  | cons frame rest =>
      simp only [carried, live, modify, habove, List.cons_append, List.map_cons,
        List.mem_cons] at h ⊢
      rcases h with h | h
      · exact Or.inl (by simpa [current, top, habove] using h)
      · exact Or.inr (Or.inr h)

end FrameStack

namespace Engine

variable {ω α β : Type}

/-! ## Executions -/

/-- The execution ends as it does over the whole input, and `Q` holds if it
succeeds. -/
def Settles (x : Exec ω α) (b : Buffer) (Q : α → Buffer → Prop) : Prop :=
  x.run.Agrees b fun result b' => ∀ a, result = .ok a → Q a b'

theorem Settles.bind {x : Exec ω α} {f : α → Exec ω β} {b : Buffer} {P : α → Buffer → Prop}
    {Q : β → Buffer → Prop} (h : Settles x b P)
    (hf : ∀ a b₁, b.Grows b₁ → P a b₁ → Settles (f a) b₁ Q) : Settles (x >>= f) b Q := by
  refine Job.Agrees.bind h ?_
  intro result b₁ hgrows hpost
  cases result with
  | error error =>
      refine Job.agrees_done hgrows.ends ?_
      rintro _ ⟨⟩
  | ok a => exact hf a b₁ hgrows (hpost a rfl)

end Engine

/-- The unit at the place has arrived, unless the input ends there. -/
structure Cursor.Known (c : Cursor) (b : Buffer) : Prop where
  reached : b.Reached (c.offset + 1)
  inside : c.offset ≤ b.content.length

namespace Engine

variable {ω α β : Type}

/-- The places of all live frames are known, and can be counted. -/
structure Primed (e : Engine) (b : Buffer) : Prop where
  ends : b.ends = true
  counted : b.content.length + 1 < UInt64.size
  known : ∀ scope ∈ e.frames.carried, scope.cursor.Known b

theorem Primed.here {e : Engine} {b : Buffer} (h : e.Primed b) : e.scope.cursor.Known b :=
  h.known _ e.frames.current_mem_carried

theorem Primed.modifyScope {e : Engine} {b : Buffer} (h : e.Primed b) {f : Scope → Scope}
    (hf : (f e.scope).cursor.Known b) : (e.modifyScope f).Primed b := by
  refine ⟨h.ends, h.counted, ?_⟩
  intro scope hscope
  rcases FrameStack.mem_carried_modify hscope with rfl | hscope
  · exact hf
  · exact h.known scope hscope

variable {e : Engine} {b : Buffer}

/-- The window can be counted from every place of the input. -/
def Counts (config : Config) (b : Buffer) : Prop :=
  b.content.length + config.matchWindow + 1 < UInt64.size

instance (config : Config) (b : Buffer) : Decidable (Counts config b) :=
  inferInstanceAs (Decidable (_ < _))

def issued (config : Config) (strategy : Strategy Unit) (polls : Nat) (input : Buffer) :
    List Instruction :=
  (((trace config strategy).drive polls input).result.map fun traced =>
    traced.1.map (·.2)).getD []

end Engine

end Backtrack
