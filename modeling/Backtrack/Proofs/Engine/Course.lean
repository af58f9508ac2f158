import Backtrack.Proofs.Builder.Linearization
import Backtrack.Proofs.Engine.Forward
import Mathlib.Data.List.Forall2

/-!
Courses of a strategy over a text that is all there.  A spot is what matters of a
frame for what comes next: the text that is left, the regions and the draft of the
tree.  `Leads` says that a strategy, begun where the frames are at the given spots,
comes to its end with a result and with the frames at other spots, within a number
of instructions, or it runs out of them before.  There is a rule for each instruction and one for composing
strategies.
-/

namespace Backtrack

namespace Engine

variable {α β : Type} {config : Config} {b : Buffer}

/-! ## Carrying out -/

/-- The strategy is carried out with a result, and all its instructions succeed. -/
inductive Carries (config : Config) (b : Buffer) :
    Strategy α → Engine → α → Engine → Prop
  | done {a : α} {e : Engine} : Carries config b (.done a) e a e
  | ask {i : Instruction} {rest : Answer → Strategy α} {a : α} {e e₁ e' : Engine}
      {answer : Answer} : Yields (step config e i : Exec Answer _) b (answer, e₁) b →
      Carries config b (rest answer) e₁ a e' → Carries config b (.ask i rest) e a e'

theorem Carries.bind {s : Strategy α} {f : α → Strategy β} {a : α} {c : β} {e e₁ e' : Engine}
    (h : Carries config b s e a e₁) (hf : Carries config b (f a) e₁ c e') :
    Carries config b (s >>= f) e c e' := by
  induction h with
  | done => exact hf
  | ask hstep _ ih => exact .ask hstep (ih hf)

theorem ends_runFrom_of_yields {i : Instruction} {rest : Answer → Strategy Unit} {e e₁ : Engine}
    {answer : Answer} {result : Except Error Builder} (hb : b.exhausted = true)
    (h : Yields (step config e i : Exec Answer _) b (answer, e₁) b)
    (hrest : (runFrom config (rest answer) e₁).Ends b result) :
    (runFrom config (.ask i rest) e).Ends b result := by
  rw [runFrom]
  refine ((prompt_step config e i).ends hb h).bind hb ?_
  exact ⟨hrest.result, hrest.waits⟩

theorem ends_runFrom_of_fails {i : Instruction} {rest : Answer → Strategy Unit} {e : Engine}
    {error : Error} (hb : b.exhausted = true)
    (h : Fails (step config e i : Exec Answer _) b error b) :
    (runFrom config (.ask i rest) e).Ends b (.error error) := by
  rw [runFrom]
  refine ((prompt_step config e i).ends hb h).bind hb ?_
  exact ⟨rfl, rfl⟩

/-- The strategy is carried out until no instruction is left to execute. -/
inductive RunsOut (config : Config) (b : Buffer) : Strategy α → Engine → Prop
  | now {i : Instruction} {rest : Answer → Strategy α} {e : Engine} :
      config.maxInstructions ≤ e.executed → RunsOut config b (.ask i rest) e
  | later {i : Instruction} {rest : Answer → Strategy α} {e e₁ : Engine} {answer : Answer} :
      Yields (step config e i : Exec Answer _) b (answer, e₁) b →
      RunsOut config b (rest answer) e₁ → RunsOut config b (.ask i rest) e

theorem RunsOut.bind {s : Strategy α} {e : Engine} (h : RunsOut config b s e)
    (f : α → Strategy β) : RunsOut config b (s >>= f) e := by
  induction h with
  | now hlimit => exact .now hlimit
  | later hstep _ ih => exact .later hstep ih

theorem Carries.runsOut {s : Strategy α} {f : α → Strategy β} {a : α} {e e' : Engine}
    (h : Carries config b s e a e') (hf : RunsOut config b (f a) e') :
    RunsOut config b (s >>= f) e := by
  induction h with
  | done => exact hf
  | ask hstep _ ih => exact .later hstep (ih hf)

def IsOut (config : Config) (result : Except Error α) : Prop :=
  ∃ executed, result = .error (.instructionLimitExceeded executed config.maxInstructions)

theorem RunsOut.ends {s : Strategy Unit} {e : Engine} (h : RunsOut config b s e)
    (hb : b.exhausted = true) :
    ∃ result, (runFrom config s e).Ends b result ∧ IsOut config result := by
  induction h with
  | @now i rest e hlimit =>
      refine ⟨_, ends_runFrom_of_fails hb ?_, e.executed + 1, rfl⟩
      unfold step
      dsimp only
      rw [if_pos (Nat.lt_succ_of_le hlimit)]
      exact (fails_throw _ b).bind _
  | later hstep _ ih =>
      obtain ⟨result, hends, hout⟩ := ih
      exact ⟨result, ends_runFrom_of_yields hb hstep hends, hout⟩

end Engine

/-! ## Spots -/

/-- What matters of a frame for what comes next. -/
structure Spot where
  /-- The text that is left. -/
  rest : List Char
  regions : Regions
  draft : Draft

namespace Engine

structure Level.At (text : String) (level : Level) (spot : Spot) : Prop where
  holding : level.scope.cursor.holding = false
  inside : level.scope.cursor.offset ≤ text.length
  rest : text.toList.drop level.scope.cursor.offset = spot.rest
  regions : level.scope.regions = spot.regions
  follows : level.state.Follows spot.draft

def At (text : String) (e : Engine) (spots : List Spot) : Prop :=
  ∃ levels, e.Stands levels ∧ List.Forall₂ (Level.At text) levels spots

/-- From the spots the strategy leads to a result and to other spots, with at most
`cost` instructions, unless there are fewer. -/
def Leads (config : Config) (text : String) (s : Strategy α) (spots : List Spot) (a : α)
    (spots' : List Spot) (cost : Nat) : Prop :=
  ∀ e : Engine, e.At text spots →
    (∃ e' : Engine, Carries config (.ofText text) s e a e' ∧ e'.At text spots' ∧
      e'.executed ≤ e.executed + cost) ∨
    RunsOut config (.ofText text) s e ∧ config.maxInstructions < e.executed + cost

variable {text : String} {spots spots' : List Spot}

theorem Leads.bind {s : Strategy α} {f : α → Strategy β} {a : α} {c : β} {spots₁ : List Spot}
    {m n : Nat} (h : Leads config text s spots a spots₁ m)
    (hf : Leads config text (f a) spots₁ c spots' n) :
    Leads config text (s >>= f) spots c spots' (m + n) := by
  intro e he
  rcases h e he with ⟨e₁, hs, he₁, hcost₁⟩ | ⟨hout, hcost⟩
  · rcases hf e₁ he₁ with ⟨e', hrest, he', hcost'⟩ | ⟨hout, hcost⟩
    · exact Or.inl ⟨e', hs.bind hrest, he', by omega⟩
    · exact Or.inr ⟨hs.runsOut hout, by omega⟩
  · exact Or.inr ⟨hout.bind f, by omega⟩

theorem Leads.mono {s : Strategy α} {a : α} {m n : Nat}
    (h : Leads config text s spots a spots' m) (hcost : m ≤ n) :
    Leads config text s spots a spots' n := by
  intro e he
  rcases h e he with ⟨e', hs, he', hexecuted⟩ | ⟨hout, hlimit⟩
  · exact Or.inl ⟨e', hs, he', by omega⟩
  · exact Or.inr ⟨hout, by omega⟩

theorem ahead_ofText {c : Cursor} (h : c.holding = false) (text : String) (n : Nat) :
    c.ahead (Symbol.ofText text) n = (text.toList.drop c.offset).take n := by
  have hchars : ∀ cs : List Char,
      ((cs.map Symbol.char).takeWhile (· != .gap)).filterMap Symbol.char? = cs := by
    intro cs
    induction cs with
    | nil => rfl
    | cons c cs ih => simpa [Symbol.char?] using ih
  rw [Cursor.ahead, h, Symbol.ofText, ← List.map_drop, ← List.map_take, hchars]
  rfl

/-- A pattern is tried on the text that is left, as far as the guard and the window
allow. -/
theorem Level.At.searched {level : Level} {spot : Spot} (h : level.At text spot)
    (config : Config) (p : Pattern) :
    level.scope.searched config (.ofText text) p =
      cutAtGuard spot.regions.spans.guard
        (spot.rest.take (p.lookahead.getD config.matchWindow)) := by
  have hunits : (Buffer.ofText text).units.toList = Symbol.ofText text := rfl
  rw [Scope.searched, Cursor.textAhead_eq, hunits, ahead_ofText h.holding, h.rest, h.regions]

variable {spot spot' parent : Spot} {below : List Spot}

/-- From the spots the run ends with a result as described, with at most `cost`
instructions, unless there are fewer. -/
def Concludes (config : Config) (text : String) (s : Strategy Unit) (spots : List Spot)
    (post : Except Error Builder → Prop) (cost : Nat) : Prop :=
  ∀ e : Engine, e.At text spots → ∃ result, (runFrom config s e).Ends (.ofText text) result ∧
    (post result ∨ IsOut config result ∧ config.maxInstructions < e.executed + cost)

theorem Concludes.mono {s : Strategy Unit} {m n : Nat} {post : Except Error Builder → Prop}
    (h : Concludes config text s spots post m) (hcost : m ≤ n) :
    Concludes config text s spots post n := by
  intro e he
  obtain ⟨result, hends, hresult⟩ := h e he
  exact ⟨result, hends, hresult.imp_right fun hout => ⟨hout.1, by omega⟩⟩

end Engine

end Backtrack
