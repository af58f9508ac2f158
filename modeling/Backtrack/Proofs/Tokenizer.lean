import Backtrack.Proofs.FrameStack.Moves
import Backtrack.Tokenizer

/-!
What a tokenizer remembers.  Whether a change to the state of a tokenizer lasts is decided
later: it does unless an attempt around it is rejected, be it the one that it was made in
or one further out, into which that one was accepted.  The state is what the changes that
last make of the first state, one after the other, and the view shows the attempts that are
open.
-/

namespace Backtrack

/-- Of what frames carry, what is on top once frames were closed, `true` standing for one
that was rejected.  `top` stands above `below`. -/
def FrameStack.left {α : Type} : List Bool → α → List α → α
  | [], top, _ => top
  | false :: closings, top, below => left closings top below.tail
  | true :: closings, top, below => left closings (below.headD top) below.tail

namespace FrameStack

variable {α : Type}

theorem left_nil_below (closings : List Bool) (top : α) : left closings top [] = top := by
  induction closings with
  | nil => rfl
  | cons rejected closings ih =>
      cases rejected with
      | true => exact ih
      | false => exact ih

theorem left_of_mem {closings : List Bool} (h : true ∈ closings) (top top' : α) {below : List α}
    (hbelow : closings.length ≤ below.length) :
    left closings top below = left closings top' below := by
  induction closings generalizing below with
  | nil => cases h
  | cons rejected closings ih =>
      cases below with
      | nil => cases hbelow
      | cons second below =>
          cases rejected with
          | true => rfl
          | false =>
              have hrest : true ∈ closings := by simpa using h
              exact ih hrest (Nat.le_of_succ_le_succ hbelow)

theorem left_of_notMem {closings : List Bool} (h : true ∉ closings) (top : α) (below : List α) :
    left closings top below = top := by
  induction closings generalizing below with
  | nil => rfl
  | cons rejected closings ih =>
      cases rejected with
      | true => exact absurd List.mem_cons_self h
      | false => exact ih (fun hmem => h (List.mem_cons_of_mem _ hmem)) below.tail

theorem ids_modify (s : FrameStack α) (f : α → α) : (s.modify f).ids = s.ids := by
  obtain ⟨below, hlive⟩ := s.live_eq_cons
  rw [ids, ids, live_modify hlive f, hlive]
  rfl

theorem ids_pushed (s : FrameStack α) (payload : α) :
    (s.pushed payload).ids = ⟨s.next⟩ :: s.ids := by
  obtain ⟨below, hlive⟩ := s.live_eq_cons
  rw [ids, ids, live_pushed hlive payload, hlive]
  rfl

theorem next_pushed (s : FrameStack α) (payload : α) :
    (s.pushed payload).next = s.next + 1 := rfl

theorem Valid.ids_below {s : FrameStack α} (h : s.Valid) (hroot : s.topId ≠ .root)
    (status : Status) : (s.below status).ids = s.ids.tail := by
  obtain ⟨frame, parent, rest, hlive⟩ := h.exists_parent hroot
  rw [ids, ids, (h.live_below hlive status).1, hlive]
  rfl

end FrameStack

/-- A change to the state of a tokenizer. -/
inductive LexicalChange where
  | push (name : String)
  | pop
  | record (token : Token)
  deriving DecidableEq, Repr

namespace LexicalChange

def token? : LexicalChange → Option Token
  | record token => some token
  | _ => none

/-- The contexts after a change, outermost first.  None if there was nothing to pop. -/
def onContexts : LexicalChange → List String → Option (List String)
  | push name, contexts => some (contexts ++ [name])
  | pop, contexts => if contexts = [] then none else some contexts.dropLast
  | record _, contexts => some contexts

def replay (contexts : List String) (changes : List LexicalChange) : Option (List String) :=
  changes.foldlM (fun contexts change => change.onContexts contexts) contexts

end LexicalChange

namespace LexicalState

/-- The contexts inside of the initial one, outermost first. -/
def contexts (s : LexicalState) : List String := (s.spans.inner.map (·.name)).reverse

/-- The state after a change.  None if there was nothing to pop. -/
def change? (s : LexicalState) : LexicalChange → Option LexicalState
  | .push name => some { s with spans := s.spans.push { name } }
  | .pop =>
    match s.spans.pop with
    | .ok (_, spans) => some { s with spans }
    | .error _ => none
  | .record token =>
    some { s with matched := s.matched ++ token.text, lastToken := token }

/-- A state with what a series of changes makes of it. -/
structure Becomes (s : LexicalState) (changes : List LexicalChange) (s' : LexicalState) :
    Prop where
  matched : s'.matched = s.matched ++ String.join ((changes.filterMap (·.token?)).map (·.text))
  lastToken : s'.lastToken = (changes.filterMap (·.token?)).getLast?.getD s.lastToken
  base : s'.spans.base = s.spans.base
  contexts : LexicalChange.replay s.contexts changes = some s'.contexts

theorem becomes_nil (s : LexicalState) : s.Becomes [] s :=
  ⟨String.append_empty.symm, rfl, rfl, rfl⟩

theorem Becomes.cons {s s₁ s' : LexicalState} {change : LexicalChange}
    {changes : List LexicalChange} (hchange : s.change? change = some s₁)
    (h : s₁.Becomes changes s') : s.Becomes (change :: changes) s' := by
  obtain ⟨hmatched, hlast, hbase, hcontexts⟩ := h
  cases change with
  | push name =>
      cases hchange
      refine ⟨hmatched, hlast, hbase, ?_⟩
      rw [LexicalState.contexts, SpanStack.push, List.map_cons, List.reverse_cons] at hcontexts
      exact hcontexts
  | pop =>
      rw [change?, SpanStack.pop] at hchange
      cases hinner : s.spans.inner with
      | nil =>
          rw [hinner] at hchange
          cases hchange
      | cons span inner =>
          rw [hinner] at hchange
          cases hchange
          refine ⟨hmatched, hlast, hbase, ?_⟩
          have hpopped : LexicalChange.pop.onContexts s.contexts =
              some (inner.map (·.name)).reverse := by
            simp [LexicalChange.onContexts, LexicalState.contexts, hinner]
          rw [LexicalChange.replay, List.foldlM_cons, hpopped]
          exact hcontexts
  | record token =>
      cases hchange
      have htokens : (LexicalChange.record token :: changes).filterMap (·.token?) =
          token :: changes.filterMap (·.token?) := rfl
      refine ⟨?_, ?_, hbase, hcontexts⟩
      · rw [hmatched, htokens, List.map_cons, String.join_cons, String.append_assoc]
      · rw [hlast, htokens, List.getLast?_cons, Option.getD_some]

theorem names_spans (s : LexicalState) : s.spans.names = s.spans.base.name :: s.contexts := rfl

end LexicalState

namespace Tokenizer

inductive Request where
  | branch
  | accept
  | reject
  | change (c : LexicalChange)
  deriving DecidableEq, Repr

/-- A request that fails leaves the tokenizer as it is. -/
def orKeep (t : Tokenizer) : Except Error Tokenizer → Tokenizer × Except Error Unit
  | .ok t' => (t', .ok ())
  | .error e => (t, .error e)

def perform (t : Tokenizer) : Request → Tokenizer × Except Error Unit
  | .branch => t.orKeep t.branch
  | .accept => t.orKeep t.accept
  | .reject => t.orKeep t.reject
  | .change (.push name) => (t.pushContext name, .ok ())
  | .change .pop => t.orKeep (t.popContext.map (·.2))
  | .change (.record token) => (t.record token, .ok ())

def after (t : Tokenizer) (requests : List Request) : Tokenizer :=
  requests.foldl (fun t request => (t.perform request).1) t

/-- A request and whether it succeeded. -/
structure Entry where
  request : Request
  succeeded : Bool
  deriving DecidableEq, Repr

def history (t : Tokenizer) : List Request → List Entry
  | [] => []
  | request :: rest =>
    ⟨request, (t.perform request).2.isOk⟩ :: (t.perform request).1.history rest

/-! ## Reading the history -/

/-- How the attempts that are open before these entries are closed by them, innermost
first: `true` for one that is rejected. -/
def closings : List Entry → List Bool
  | [] => []
  | ⟨.branch, true⟩ :: rest => (closings rest).tail
  | ⟨.accept, true⟩ :: rest => false :: closings rest
  | ⟨.reject, true⟩ :: rest => true :: closings rest
  | _ :: rest => closings rest

/-- The changes that succeeded outside of every attempt that is rejected, in order. -/
def survivors : List Entry → List LexicalChange
  | [] => []
  | ⟨.change c, true⟩ :: rest =>
    if true ∈ closings rest then survivors rest else c :: survivors rest
  | _ :: rest => survivors rest

/-- The attempts that are open, innermost first. -/
structure Attempts where
  names : List FrameId := []
  /-- The name of the next one. -/
  next : Nat := 1
  deriving DecidableEq, Repr

namespace Attempts

def after (a : Attempts) : Entry → Attempts
  | ⟨.branch, true⟩ => { names := ⟨a.next⟩ :: a.names, next := a.next + 1 }
  | ⟨.accept, true⟩ | ⟨.reject, true⟩ => { a with names := a.names.tail }
  | _ => a

def current (a : Attempts) : FrameId := a.names.headD .root

/-- The attempt that the current one was started in, or the root. -/
def parent? (a : Attempts) : Option FrameId :=
  match a.names with
  | [] => none
  | _ :: below => some (below.headD .root)

end Attempts

/-- The attempts that the history leaves open. -/
def attempts (entries : List Entry) : Attempts := entries.foldl Attempts.after {}

/-- Why a request fails while these attempts and contexts are open. -/
def refusal? (a : Attempts) (contexts : List String) : Request → Option Error
  | .accept => if a.names = [] then some .acceptedRoot else none
  | .reject => if a.names = [] then some .rejectedRoot else none
  | .change .pop => if contexts = [] then some .spanUnderflow else none
  | _ => none

/-! ## The stack of a tokenizer -/

/-- The stack is in order, its top is the current frame, and the live frames above the root
are the attempts that are open. -/
structure Stands (t : Tokenizer) (a : Attempts) : Prop where
  valid : t.stack.Valid
  frame : t.frame = t.stack.topId
  ids : t.stack.ids = a.names ++ [.root]
  next : t.stack.next = a.next

variable {t : Tokenizer} {a : Attempts}

theorem stands_start (config : Config) : (start config).Stands {} where
  valid := FrameStack.valid_ofRoot _
  frame := rfl
  ids := rfl
  next := rfl

theorem Stands.topId_eq (h : t.Stands a) : t.stack.topId = a.current := by
  obtain ⟨below, hlive⟩ := t.stack.live_eq_cons
  have hids := h.ids
  rw [FrameStack.ids, hlive, List.map_cons] at hids
  rw [Attempts.current]
  cases hnames : a.names with
  | nil =>
      rw [hnames, List.nil_append, List.cons.injEq] at hids
      exact hids.1
  | cons name names =>
      rw [hnames, List.cons_append, List.cons.injEq] at hids
      exact hids.1

theorem Stands.depth_eq (h : t.Stands a) : t.stack.depth = a.names.length := by
  have hlength := congrArg List.length h.ids
  rw [FrameStack.ids, FrameStack.live, List.length_map, List.length_append, List.length_append,
    List.length_singleton, List.length_singleton] at hlength
  exact Nat.succ.inj hlength

theorem Stands.above_eq_nil_iff (h : t.Stands a) : t.stack.above = [] ↔ a.names = [] := by
  rw [← List.length_eq_zero_iff, ← List.length_eq_zero_iff, ← h.depth_eq, FrameStack.depth]

theorem Stands.topId_eq_root_iff (h : t.Stands a) : t.stack.topId = .root ↔ a.names = [] :=
  h.valid.topId_eq_root_iff.trans h.above_eq_nil_iff

theorem Stands.modify (h : t.Stands a) (f : LexicalState → LexicalState) :
    Stands { t with stack := t.stack.modify f } a where
  valid := h.valid.modify f
  frame := h.frame.trans (FrameStack.topId_modify _ f).symm
  ids := (FrameStack.ids_modify _ f).trans h.ids
  next := (FrameStack.next_modify _ f).trans h.next

theorem Stands.below (h : t.Stands a) (hopen : a.names ≠ []) (status : Status) :
    Stands ⟨t.stack.below status, (t.stack.below status).topId⟩
      { a with names := a.names.tail } where
  valid := h.valid.below status
  frame := rfl
  ids := by
    rw [h.valid.ids_below (h.topId_eq_root_iff.not.mpr hopen), h.ids,
      List.tail_append_of_ne_nil hopen]
  next := (FrameStack.next_below _ status).trans h.next

theorem Stands.parent_eq (h : t.Stands a) : t.stack.top.info.parent = a.parent? := by
  have hids := h.ids
  rw [Attempts.parent?]
  cases hnames : a.names with
  | nil =>
      have habove := h.above_eq_nil_iff.mpr hnames
      rw [FrameStack.top, habove, List.headD_nil, h.valid.base]
      rfl
  | cons name names =>
      have hopen : a.names ≠ [] := by
        rw [hnames]
        exact List.cons_ne_nil name names
      obtain ⟨frame, parent, rest, hlive⟩ :=
        h.valid.exists_parent (h.topId_eq_root_iff.not.mpr hopen)
      rw [FrameStack.ids, hlive, hnames, List.map_cons, List.map_cons, List.cons_append,
        List.cons.injEq] at hids
      rw [FrameStack.top_of_live hlive, h.valid.parent_of_live hlive]
      cases names with
      | nil =>
          rw [List.nil_append, List.cons.injEq] at hids
          exact congrArg some hids.2.1
      | cons second names =>
          rw [List.cons_append, List.cons.injEq] at hids
          exact congrArg some hids.2.1

/-- What the view shows of the attempts. -/
theorem Stands.view_eq (h : t.Stands a) :
    t.view =
      { id := a.current
        production := .token
        depth := a.names.length
        parent := a.parent?
        status := a.current.topStatus
        lastToken := t.state.lastToken
        lexicalContext := t.state.spans.context } := by
  have hinfo : t.stack.info? t.frame = some t.stack.top.info := by
    rw [h.frame, FrameStack.info?_topId]
  have hdepth : t.stack.top.info.depth = a.names.length := by
    rw [h.valid.depth_top, h.depth_eq]
  have hstatus : t.stack.top.info.status = a.current.topStatus := by
    rw [h.valid.status_top, h.topId_eq]
  rw [view, FrameStack.depth?, FrameStack.parent?, FrameStack.status?, hinfo, h.frame, h.topId_eq]
  simp only [Option.map_some, Option.bind_some, Option.getD_some, hdepth, hstatus, h.parent_eq]

/-! ## One request -/

theorem Stands.perform_branch (h : t.Stands a) :
    t.perform .branch = (⟨t.stack.pushed t.state, ⟨t.stack.next⟩⟩, .ok ()) := by
  rw [perform, branch, h.frame, h.valid.branch_topId]
  rfl

theorem Stands.perform_accept (h : t.Stands a) (hopen : a.names ≠ []) :
    t.perform .accept =
      (⟨(t.stack.below .accepted).modify fun _ => t.state, (t.stack.below .accepted).topId⟩,
        .ok ()) := by
  obtain ⟨frame, rest, habove⟩ :=
    List.exists_cons_of_ne_nil (h.above_eq_nil_iff.not.mpr hopen)
  have hstate : t.state = frame.payload := by
    rw [state, FrameStack.current, FrameStack.top, habove, List.headD_cons]
  rw [perform, accept, h.frame, h.valid.accept_topId habove, hstate]
  rfl

theorem Stands.perform_reject (h : t.Stands a) (hopen : a.names ≠ []) :
    t.perform .reject =
      (⟨t.stack.below .rejected, (t.stack.below .rejected).topId⟩, .ok ()) := by
  obtain ⟨frame, rest, habove⟩ :=
    List.exists_cons_of_ne_nil (h.above_eq_nil_iff.not.mpr hopen)
  rw [perform, reject, h.frame, h.valid.reject_topId habove]
  rfl

theorem Stands.perform_accept_root (h : t.Stands a) (hroot : a.names = []) :
    t.perform .accept = (t, .error .acceptedRoot) := by
  rw [perform, accept, h.frame, h.topId_eq_root_iff.mpr hroot]
  rfl

theorem Stands.perform_reject_root (h : t.Stands a) (hroot : a.names = []) :
    t.perform .reject = (t, .error .rejectedRoot) := by
  rw [perform, reject, h.frame, h.topId_eq_root_iff.mpr hroot]
  rfl

theorem perform_change {change : LexicalChange} {s : LexicalState}
    (h : t.state.change? change = some s) :
    t.perform (.change change) = ({ t with stack := t.stack.modify fun _ => s }, .ok ()) := by
  cases change with
  | push name =>
      cases h
      rw [perform, pushContext, FrameStack.modify_const]
      rfl
  | pop =>
      rw [LexicalState.change?] at h
      rw [perform, popContext]
      cases hpop : t.state.spans.pop with
      | error e => rw [hpop] at h; cases h
      | ok popped =>
          rw [hpop] at h
          cases h
          show ({ t with stack := t.stack.modify fun s => { s with spans := popped.2 } },
            Except.ok ()) = _
          rw [FrameStack.modify_const]
          rfl
  | record token =>
      cases h
      rw [perform, record, FrameStack.modify_const]
      rfl

theorem perform_change_none {change : LexicalChange} (h : t.state.change? change = none) :
    change = .pop ∧ t.state.contexts = [] ∧
      t.perform (.change change) = (t, .error .spanUnderflow) := by
  cases change with
  | push name => cases h
  | record token => cases h
  | pop =>
      cases hinner : t.state.spans.inner with
      | cons span inner =>
          rw [LexicalState.change?, SpanStack.pop, hinner] at h
          cases h
      | nil =>
          refine ⟨rfl, by rw [LexicalState.contexts, hinner]; rfl, ?_⟩
          rw [perform, popContext, SpanStack.pop, hinner]
          rfl

/-- What a request does to what the live frames carry, `top` on top of `below`. -/
inductive Entry.Leads (top : LexicalState) (below : List LexicalState) :
    Entry → List LexicalState → Prop
  | failed (request : Request) : Leads top below ⟨request, false⟩ (top :: below)
  | branch : Leads top below ⟨.branch, true⟩ (top :: top :: below)
  | accept {second : LexicalState} {rest : List LexicalState} : below = second :: rest →
      Leads top below ⟨.accept, true⟩ (top :: rest)
  | reject {second : LexicalState} {rest : List LexicalState} : below = second :: rest →
      Leads top below ⟨.reject, true⟩ (second :: rest)
  | change {change : LexicalChange} {s : LexicalState} : top.change? change = some s →
      Leads top below ⟨.change change, true⟩ (s :: below)

/-- What a request comes to. -/
structure Performed (t : Tokenizer) (a : Attempts) (request : Request) : Prop where
  stands : (t.perform request).1.Stands (a.after ⟨request, (t.perform request).2.isOk⟩)
  carried : ∀ top below, t.stack.carried = top :: below →
    Entry.Leads top below ⟨request, (t.perform request).2.isOk⟩
      (t.perform request).1.stack.carried
  outcome : (t.perform request).2 =
    match refusal? a t.state.contexts request with
    | some e => .error e
    | none => .ok ()

theorem Stands.performed_of_error {request : Request} {e : Error} (h : t.Stands a)
    (hrefusal : refusal? a t.state.contexts request = some e)
    (hperform : t.perform request = (t, .error e)) : Performed t a request where
  stands := by
    rw [hperform]
    cases request <;> exact h
  carried := by
    intro top below hcarried
    rw [hperform, hcarried]
    exact .failed request
  outcome := by rw [hperform, hrefusal]

theorem Stands.performed_branch (h : t.Stands a) : Performed t a .branch where
  stands := by
    rw [h.perform_branch]
    exact
      { valid := h.valid.pushed t.state
        frame := rfl
        ids := by
          rw [FrameStack.ids_pushed, h.ids, h.next]
          rfl
        next := by rw [FrameStack.next_pushed, h.next]; rfl }
  carried := by
    intro top below hcarried
    have hstate : t.state = top := FrameStack.current_of_carried hcarried
    rw [h.perform_branch, FrameStack.carried_pushed, hcarried, hstate]
    exact .branch
  outcome := by
    rw [h.perform_branch]
    rfl

theorem Stands.carried_below (h : t.Stands a) (hopen : a.names ≠ []) (status : Status)
    {top : LexicalState} {below : List LexicalState} (hcarried : t.stack.carried = top :: below) :
    ∃ second rest, below = second :: rest ∧ (t.stack.below status).carried = second :: rest := by
  obtain ⟨frame, parent, rest, hlive⟩ :=
    h.valid.exists_parent (h.topId_eq_root_iff.not.mpr hopen)
  have hbelow := FrameStack.carried_below status (h.above_eq_nil_iff.not.mpr hopen)
  rw [hcarried, List.tail_cons] at hbelow
  rw [FrameStack.carried, hlive, List.map_cons, List.map_cons, List.cons.injEq] at hcarried
  exact ⟨parent.payload, rest.map (·.payload), hcarried.2.symm, hbelow.trans hcarried.2.symm⟩

theorem Stands.performed_accept (h : t.Stands a) (hopen : a.names ≠ []) :
    Performed t a .accept where
  stands := by
    rw [h.perform_accept hopen]
    exact (h.below hopen .accepted).modify _
  carried := by
    intro top below hcarried
    have hstate : t.state = top := FrameStack.current_of_carried hcarried
    obtain ⟨second, rest, rfl, hbelow⟩ := h.carried_below hopen .accepted hcarried
    rw [h.perform_accept hopen, FrameStack.carried_modify _ hbelow, hstate]
    exact .accept rfl
  outcome := by
    rw [h.perform_accept hopen, refusal?, if_neg hopen]

theorem Stands.performed_reject (h : t.Stands a) (hopen : a.names ≠ []) :
    Performed t a .reject where
  stands := by
    rw [h.perform_reject hopen]
    exact h.below hopen .rejected
  carried := by
    intro top below hcarried
    obtain ⟨second, rest, rfl, hbelow⟩ := h.carried_below hopen .rejected hcarried
    rw [h.perform_reject hopen, hbelow]
    exact .reject rfl
  outcome := by
    rw [h.perform_reject hopen, refusal?, if_neg hopen]

theorem Stands.performed_change {change : LexicalChange} {s : LexicalState} (h : t.Stands a)
    (hchange : t.state.change? change = some s) : Performed t a (.change change) where
  stands := by
    rw [perform_change hchange]
    exact h.modify _
  carried := by
    intro top below hcarried
    have hstate : t.state = top := FrameStack.current_of_carried hcarried
    rw [perform_change hchange, FrameStack.carried_modify _ hcarried]
    rw [hstate] at hchange
    exact .change hchange
  outcome := by
    rw [perform_change hchange]
    cases change with
    | push name => rfl
    | record token => rfl
    | pop =>
        cases hinner : t.state.spans.inner with
        | nil =>
            rw [LexicalState.change?, SpanStack.pop, hinner] at hchange
            cases hchange
        | cons span inner => simp [refusal?, LexicalState.contexts, hinner]

theorem Stands.performed (h : t.Stands a) (request : Request) : Performed t a request := by
  cases request with
  | branch => exact h.performed_branch
  | accept =>
      by_cases hroot : a.names = []
      · exact h.performed_of_error (if_pos hroot) (h.perform_accept_root hroot)
      · exact h.performed_accept hroot
  | reject =>
      by_cases hroot : a.names = []
      · exact h.performed_of_error (if_pos hroot) (h.perform_reject_root hroot)
      · exact h.performed_reject hroot
  | change change =>
      cases hchange : t.state.change? change with
      | some s => exact h.performed_change hchange
      | none =>
          obtain ⟨rfl, hcontexts, hperform⟩ := perform_change_none hchange
          exact h.performed_of_error (if_pos hcontexts) hperform

/-! ## A series of requests -/

theorem closings_of_failed (request : Request) (entries : List Entry) :
    closings (⟨request, false⟩ :: entries) = closings entries := by
  cases request <;> rfl

theorem survivors_of_failed (request : Request) (entries : List Entry) :
    survivors (⟨request, false⟩ :: entries) = survivors entries := by
  cases request <;> rfl

/-- More attempts cannot be closed than are open. -/
theorem Entry.Leads.length_closings {entry : Entry} {entries : List Entry} {top : LexicalState}
    {below states : List LexicalState} (h : entry.Leads top below states)
    (hrest : (closings entries).length < states.length) :
    (closings (entry :: entries)).length < (top :: below).length := by
  cases h with
  | failed request =>
      rw [closings_of_failed]
      exact hrest
  | branch =>
      simp only [closings, List.length_tail, List.length_cons] at hrest ⊢
      omega
  | accept hbelow =>
      rw [hbelow]
      exact Nat.succ_lt_succ hrest
  | reject hbelow =>
      rw [hbelow]
      exact Nat.succ_lt_succ hrest
  | change _ => exact hrest

/-- What is left on top in the end can be told before a request or after it. -/
theorem Entry.Leads.becomes_survivors {entry : Entry} {entries : List Entry}
    {top s : LexicalState} {below states : List LexicalState} (h : entry.Leads top below states)
    (hlength : (closings entries).length < states.length)
    (hrest : ∀ top' below', states = top' :: below' →
      (FrameStack.left (closings entries) top' below').Becomes (survivors entries) s) :
    (FrameStack.left (closings (entry :: entries)) top below).Becomes
      (survivors (entry :: entries)) s := by
  cases h with
  | failed request =>
      rw [closings_of_failed, survivors_of_failed]
      exact hrest top below rfl
  | branch =>
      -- The copy made by the attempt is what stands below it as well.
      have htail : FrameStack.left (closings entries).tail top below =
          FrameStack.left (closings entries) top (top :: below) := by
        cases closings entries with
        | nil => rfl
        | cons rejected closings => cases rejected <;> rfl
      have hafter := hrest top (top :: below) rfl
      rw [← htail] at hafter
      exact hafter
  | accept hbelow =>
      rw [hbelow]
      exact hrest top _ rfl
  | reject hbelow =>
      rw [hbelow]
      exact hrest _ _ rfl
  | @change change changed hchange =>
      have hafter := hrest changed below rfl
      have hclosings : closings (⟨.change change, true⟩ :: entries) = closings entries := rfl
      by_cases hrejected : true ∈ closings entries
      · have hsurvivors : survivors (⟨.change change, true⟩ :: entries) =
            survivors entries := if_pos hrejected
        rw [hclosings, hsurvivors,
          FrameStack.left_of_mem hrejected top changed (Nat.le_of_lt_succ hlength)]
        exact hafter
      · have hsurvivors : survivors (⟨.change change, true⟩ :: entries) =
            change :: survivors entries := if_neg hrejected
        rw [FrameStack.left_of_notMem hrejected] at hafter
        rw [hclosings, hsurvivors, FrameStack.left_of_notMem hrejected]
        exact hafter.cons hchange

theorem Stands.length_closings (h : t.Stands a) (requests : List Request) :
    (closings (t.history requests)).length < t.stack.carried.length := by
  induction requests generalizing t a with
  | nil =>
      rw [history, FrameStack.carried_eq, List.length_append]
      exact Nat.lt_add_left _ Nat.one_pos
  | cons request rest ih =>
      have hperformed := h.performed request
      obtain ⟨below, hlive⟩ := t.stack.live_eq_cons
      have hcarried : t.stack.carried = t.stack.top.payload :: below.map (·.payload) := by
        rw [FrameStack.carried, hlive, List.map_cons]
      rw [hcarried]
      exact (hperformed.carried _ _ hcarried).length_closings (ih hperformed.stands)

/-- What is left on top is what the state is made from. -/
theorem Stands.becomes_survivors (h : t.Stands a) (requests : List Request)
    {top : LexicalState} {below : List LexicalState} (hcarried : t.stack.carried = top :: below) :
    (FrameStack.left (closings (t.history requests)) top below).Becomes
      (survivors (t.history requests)) (t.after requests).state := by
  induction requests generalizing t a top below with
  | nil =>
      have hstate : t.state = top := FrameStack.current_of_carried hcarried
      have hbecomes := LexicalState.becomes_nil t.state
      rw [hstate] at hbecomes
      rw [after, List.foldl_nil, hstate]
      exact hbecomes
  | cons request rest ih =>
      have hperformed := h.performed request
      exact (hperformed.carried top below hcarried).becomes_survivors
        (hperformed.stands.length_closings rest) fun top' below' => ih hperformed.stands

theorem Stands.after (h : t.Stands a) (requests : List Request) :
    (t.after requests).Stands ((t.history requests).foldl Attempts.after a) := by
  induction requests generalizing t a with
  | nil => exact h
  | cons request rest ih => exact ih (h.performed request).stands

/-- What a tokenizer remembers of its history. -/
structure Remembers (config : Config) (t : Tokenizer) (entries : List Entry) : Prop where
  matched : t.state.matched =
    String.join (((survivors entries).filterMap (·.token?)).map (·.text))
  lastToken : t.state.lastToken =
    ((survivors entries).filterMap (·.token?)).getLast?.getD .start
  contexts : ∃ contexts, LexicalChange.replay [] (survivors entries) = some contexts ∧
    t.state.spans.names = config.initialSpan :: contexts
  frame : t.frame = t.stack.topId
  frames : t.stack.ids = (attempts entries).names ++ [.root]
  view : t.view =
    { id := (attempts entries).current
      production := .token
      depth := (attempts entries).names.length
      parent := (attempts entries).parent?
      status := (attempts entries).current.topStatus
      lastToken := t.state.lastToken
      lexicalContext := t.state.spans.context }
  outcome : ∀ request, (t.perform request).2 =
    match refusal? (attempts entries) t.state.contexts request with
    | some e => .error e
    | none => .ok ()

/-- A tokenizer forgets the attempts that were rejected and nothing else. -/
theorem remembers_after (config : Config) (requests : List Request) :
    Remembers config ((start config).after requests) ((start config).history requests) := by
  have hstart := stands_start config
  have hstands := hstart.after requests
  have hcarried : (start config).stack.carried = [{ spans := .ofName config.initialSpan }] := rfl
  have hbecomes := hstart.becomes_survivors requests hcarried
  rw [FrameStack.left_nil_below] at hbecomes
  exact
    { matched := hbecomes.matched.trans String.empty_append
      lastToken := hbecomes.lastToken
      contexts := by
        refine ⟨_, hbecomes.contexts, ?_⟩
        rw [LexicalState.names_spans, hbecomes.base]
        rfl
      frame := hstands.frame
      frames := hstands.ids
      view := hstands.view_eq
      outcome := fun request => (hstands.performed request).outcome }

/-- The inner attempt is accepted, but into one that is rejected. -/
example :
    survivors ((start {}).history
      [.change (.record ⟨"word", "a"⟩), .branch, .branch, .change (.record ⟨"word", "b"⟩),
        .accept, .reject]) = [.record ⟨"word", "a"⟩] := by
  decide

end Tokenizer

end Backtrack
