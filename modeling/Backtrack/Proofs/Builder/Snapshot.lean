import Backtrack.Proofs.Builder.Mirror

/-!
Building with snapshots.  A builder that saves a copy of its whole state at every
branch, and goes back to the copy when the branch is rejected, is the plainest
way to build speculatively.  The builder with journals cannot be told from it:
it gives the same answers and shows the same tree after every request.
-/

namespace Backtrack

/-- What a builder can be asked to do. -/
inductive Request where
  | advance (t : Terminal)
  | write (text : String)
  | bindAttribute (key : String) (value : Value)
  | branch
  | accept
  | reject

structure Observed where
  path : Path
  node : Option Node
  parentNode : Option Node
  last : Option Terminal
  written : String
  root : Option Node
  document : Except Error Document

abbrev Answered := Except Error (Option Emitted)

namespace Builder

def observe (b : Builder) : Observed where
  path := b.path
  node := b.node?
  parentNode := b.parentNode?
  last := b.last?
  written := b.written
  root := b.root?
  document := b.finish

def perform (b : Builder) : Request → Builder × Answered
  | .advance t => (b.advance t).map id (·.map some)
  | .write text => (b.write text).map id (·.map some)
  | .bindAttribute key value => (b.bindAttribute key value).map id (·.map some)
  | .branch => b.branch.map id (·.map fun _ => none)
  | .accept => b.accept.map id (·.map fun _ => none)
  | .reject => b.reject.map id (·.map fun _ => none)

def history (b : Builder) : List Request → List (Answered × Observed)
  | [] => []
  | request :: rest =>
      let (b, answered) := b.perform request
      (answered, b.observe) :: b.history rest

def after (b : Builder) (requests : List Request) : Builder :=
  requests.foldl (fun b request => (b.perform request).1) b

end Builder

/-- A builder that saves its whole state at a branch. -/
structure Snapshots where
  /-- Builds without branching. -/
  current : Builder := .start
  /-- The states at the branches still open, innermost first. -/
  saved : List BuildState := []

namespace Snapshots

/-- Names of segments go on from where they are: a state that comes back does not
bring its names back. -/
def perform (s : Snapshots) : Request → Snapshots × Answered
  | .branch => ({ s with saved := s.current.state :: s.saved }, .ok none)
  | .accept =>
      match s.saved with
      | [] => (s, .error .acceptedRoot)
      | _ :: saved => ({ s with saved }, .ok none)
  | .reject =>
      match s.saved with
      | [] => (s, .error .rejectedRoot)
      | state :: saved => ({ s with current := { s.current with state }, saved }, .ok none)
  | request =>
      let (current, answered) := s.current.perform request
      ({ s with current }, answered)

def history (s : Snapshots) : List Request → List (Answered × Observed)
  | [] => []
  | request :: rest =>
      let (s, answered) := s.perform request
      (answered, s.current.observe) :: s.history rest

def after (s : Snapshots) (requests : List Request) : Snapshots :=
  requests.foldl (fun s request => (s.perform request).1) s

end Snapshots

namespace Builder

/-! ## Changes do not see frames -/

/-- The builders build the same and name segments alike.  They may differ in
their frames. -/
structure Agrees (b c : Builder) : Prop where
  state : b.state = c.state
  nextId : b.nextId = c.nextId

theorem Agrees.observe {b c : Builder} (h : b.Agrees c) : b.observe = c.observe := by
  simp [Builder.observe, path, node?, parentNode?, last?, written, root?, finish, h.state]

theorem Agrees.commit {b c : Builder} (h : b.Agrees c) (change : BuildState × Undo) :
    (b.commit change).Agrees (c.commit change) :=
  ⟨by simp, by simpa using h.nextId⟩

theorem Agrees.advance {b c : Builder} (h : b.Agrees c) (t : Terminal) :
    (b.advance t).1.Agrees (c.advance t).1 ∧ (b.advance t).2 = (c.advance t).2 := by
  have hnext : b.nextIdAfter t = c.nextIdAfter t := by
    rw [nextIdAfter, nextIdAfter, h.state, h.nextId]
  rw [advance_eq, advance_eq, h.state, h.nextId, hnext]
  rcases c.state.apply ⟨c.nextId⟩ t with ⟨state, e | undo⟩
  · exact ⟨⟨rfl, rfl⟩, rfl⟩
  · exact ⟨⟨by simp, by simp⟩, rfl⟩

theorem Agrees.write {b c : Builder} (h : b.Agrees c) (text : String) :
    (b.write text).1.Agrees (c.write text).1 ∧ (b.write text).2 = (c.write text).2 := by
  rw [Builder.write, Builder.write, h.state]
  exact ⟨h.commit _, rfl⟩

theorem Agrees.bindAttribute {b c : Builder} (h : b.Agrees c) (key : String) (value : Value) :
    (b.bindAttribute key value).1.Agrees (c.bindAttribute key value).1 ∧
      (b.bindAttribute key value).2 = (c.bindAttribute key value).2 := by
  rw [Builder.bindAttribute, Builder.bindAttribute, h.state]
  cases c.state.bindAttribute key value with
  | error e => exact ⟨h, rfl⟩
  | ok change => exact ⟨h.commit change, rfl⟩

/-! ## The two builders -/

/-- The builder with journals and the builder with snapshots stand alike. -/
structure Matches (b : Builder) (s : Snapshots) : Prop where
  agrees : b.Agrees s.current
  mirrors : b.Mirrors s.saved

theorem matches_start : start.Matches {} := ⟨⟨rfl, rfl⟩, mirrors_start⟩

/-- One request is answered alike, and the builders stand alike after it. -/
theorem Matches.perform {b : Builder} {s : Snapshots} (h : b.Matches s) (request : Request) :
    (b.perform request).1.Matches (s.perform request).1 ∧
      (b.perform request).2 = (s.perform request).2 := by
  cases request with
  | advance t =>
      obtain ⟨hagrees, hanswer⟩ := h.agrees.advance t
      exact ⟨⟨hagrees, h.mirrors.advance t⟩, congrArg (Except.map some) hanswer⟩
  | write text =>
      obtain ⟨hagrees, hanswer⟩ := h.agrees.write text
      exact ⟨⟨hagrees, h.mirrors.write text⟩, congrArg (Except.map some) hanswer⟩
  | bindAttribute key value =>
      obtain ⟨hagrees, hanswer⟩ := h.agrees.bindAttribute key value
      exact ⟨⟨hagrees, h.mirrors.bindAttribute key value⟩, congrArg (Except.map some) hanswer⟩
  | branch =>
      obtain ⟨hok, hstate, hnext, hmirrors⟩ := h.mirrors.branch
      refine ⟨⟨⟨hstate.trans h.agrees.state, hnext.trans h.agrees.nextId⟩, ?_⟩, ?_⟩
      · rw [Snapshots.perform, ← h.agrees.state]
        exact hmirrors
      · rw [Builder.perform, Prod.map_snd, hok]
        rfl
  | accept =>
      obtain ⟨current, saved⟩ := s
      cases saved with
      | nil =>
          rw [Builder.perform, h.mirrors.accept_root]
          exact ⟨h, rfl⟩
      | cons state saved =>
          obtain ⟨hok, hstate, hnext, hmirrors⟩ := h.mirrors.accept
          refine ⟨⟨⟨hstate.trans h.agrees.state, hnext.trans h.agrees.nextId⟩, hmirrors⟩, ?_⟩
          rw [Builder.perform, Prod.map_snd, hok]
          rfl
  | reject =>
      obtain ⟨current, saved⟩ := s
      cases saved with
      | nil =>
          rw [Builder.perform, h.mirrors.reject_root]
          exact ⟨h, rfl⟩
      | cons state saved =>
          obtain ⟨hok, hstate, hnext, hmirrors⟩ := h.mirrors.reject
          refine ⟨⟨⟨hstate, hnext.trans h.agrees.nextId⟩, hmirrors⟩, ?_⟩
          rw [Builder.perform, Prod.map_snd, hok]
          rfl

theorem Matches.history {b : Builder} {s : Snapshots} (h : b.Matches s)
    (requests : List Request) : b.history requests = s.history requests := by
  induction requests generalizing b s with
  | nil => rfl
  | cons request rest ih =>
      obtain ⟨hmatches, hanswer⟩ := h.perform request
      simp only [Builder.history, Snapshots.history, hanswer, hmatches.agrees.observe,
        ih hmatches]

theorem Matches.after {b : Builder} {s : Snapshots} (h : b.Matches s)
    (requests : List Request) : (b.after requests).Matches (s.after requests) := by
  induction requests generalizing b s with
  | nil => exact h
  | cons request rest ih => exact ih (h.perform request).1

/-- Every series of requests is answered as the builder with snapshots answers
it, with the same tree shown after each.  Above the root frame a rejection
succeeds and brings back the whole state saved at the branch. -/
theorem history_eq_snapshots (requests : List Request) :
    let b := start.after requests
    let s := ({} : Snapshots).after requests
    start.history requests = ({} : Snapshots).history requests ∧
      b.state = s.current.state ∧ b.nextId = s.current.nextId ∧
      (b.frame ≠ .root → b.reject.2 = .ok () ∧ s.saved.head? = some b.reject.1.state) := by
  intro b s
  have hmatches : b.Matches s := matches_start.after requests
  refine ⟨matches_start.history requests, hmatches.agrees.state, hmatches.agrees.nextId, ?_⟩
  intro hframe
  have hmirrors := hmatches.mirrors
  cases hsaved : s.saved with
  | nil => exact absurd (hmirrors.journaled.frame_eq_root_iff.mpr hsaved) hframe
  | cons state saved =>
      rw [hsaved] at hmirrors
      obtain ⟨hok, hstate, _⟩ := hmirrors.reject
      exact ⟨hok, by rw [hstate, List.head?_cons]⟩

end Builder

end Backtrack
