import Backtrack.Proofs.Input.Completion

/-!
Cursors that share one input.  A cursor can be forked, a fork can be accepted into
another cursor or be given up, and what has to wait for input is a task that is polled
until it lands or is dropped half way.  A task that moves its cursor needs it for
itself; tasks that only look may share one.  Whatever the order, filling the shared
buffer is all that one cursor's requests do to the others.
-/

namespace Backtrack

inductive Task where
  | advance (n : Nat)
  | fill (upto : Nat)
  | prime
  | peek (n : Nat)
  deriving DecidableEq, Repr

inductive Found where
  | moved (result : Except SourceError Unit)
  | filled
  | text (chars : List Char)

namespace Task

/-- Whether the task moves its cursor, so that nothing else may use it meanwhile. -/
def moves : Task → Bool
  | .advance _ => true
  | _ => false

/-- The task as a job.  It ends with the place of the cursor and what was found. -/
def job (c : Cursor) : Task → Job Empty (Cursor × Found)
  | .advance n => do
    match ← c.advance n with
    | .ok moved => return (moved, .moved (.ok ()))
    | .error error => return (c, .moved (.error error))
  | .fill upto => do
    let _ ← Job.await upto
    return (c, .filled)
  | .prime => do
    let _ ← c.prime
    return (c, .filled)
  | .peek n => do
    let text ← c.peek n
    return (c, .text text)

/-- How many units the task waits for, counted as a machine counts. -/
def upto (c : Cursor) : Task → Nat
  | .advance n => (c.offset + n + 1) % UInt64.size
  | .fill upto => upto % UInt64.size
  | .prime => c.offset + 1
  | .peek n => (c.offset + n) % UInt64.size

def finish (c : Cursor) (b : Buffer) : Task → Cursor × Found
  | .advance n =>
    match c.tryAdvance b n with
    | .ok moved => (moved, .moved (.ok ()))
    | .error error => (c, .moved (.error error))
  | .peek n => (c, .text (c.textAhead b n))
  | _ => (c, .filled)

theorem job_eq (c : Cursor) (task : Task) :
    task.job c = .fill (task.upto c) fun b => .done (task.finish c b) := by
  cases task with
  | advance n =>
      refine congrArg (Job.fill ((c.offset + n + 1) % UInt64.size)) (funext fun b => ?_)
      simp only [finish, Job.bind]
      cases c.tryAdvance b n <;> rfl
  | fill upto => rfl
  | prime => rfl
  | peek n => rfl

theorem finish_advance (c : Cursor) (b : Buffer) (n : Nat) :
    (Task.advance n).finish c b =
      if c.offsetAfter b n ≤ b.size then ({ c with offset := c.offsetAfter b n }, .moved (.ok ()))
      else if b.exhausted then (c, .moved (.error (.pastEnd c.offset n b.size)))
      else (c, .moved (.error .needsInput)) := by
  simp only [finish, Cursor.tryAdvance]
  by_cases hle : c.offsetAfter b n ≤ b.size
  · simp only [if_pos hle]
  · simp only [if_neg hle]
    cases b.exhausted <;> rfl

theorem offset_finish {c : Cursor} {b : Buffer} (h : c.offset ≤ b.size) (task : Task) :
    (task.finish c b).1.offset ≤ b.size := by
  cases task with
  | advance n =>
      rw [finish_advance]
      split
      · assumption
      · split <;> exact h
  | fill upto => exact h
  | prime => exact h
  | peek n => exact h

theorem finish_of_moves {task : Task} (h : task.moves = false) (c : Cursor) (b : Buffer) :
    (task.finish c b).1 = c := by
  cases task with
  | advance n => cases h
  | fill upto => rfl
  | prime => rfl
  | peek n => rfl

end Task

structure Flight where
  who : Nat
  task : Task
  job : Job Empty (Cursor × Found)

/-- Cursors over one input and the tasks in flight.  Both are named by their place in
the list; a name that was given up is not used again. -/
structure Forks where
  buffer : Buffer
  cursors : List (Option Cursor)
  flights : List (Option Flight)

namespace Forks

def ofFeed (feed : Feed) : Forks :=
  { buffer := .ofFeed feed, cursors := [some {}], flights := [] }

inductive Request where
  | begin (who : Nat) (task : Task)
  | poll (flight : Nat)
  | drop (flight : Nat)
  | tryAdvance (who n : Nat)
  | shift (who : Nat)
  | unshift (who : Nat)
  | branch (who : Nat)
  | accept (parent child : Nat)
  | reject (child : Nat)
  deriving DecidableEq, Repr

inductive Reply where
  /-- The cursor or the task is not there, or the cursor is in use. -/
  | refused
  | begun (flight : Nat)
  | pending
  | landed (who : Nat) (task : Task) (found : Found)
  | dropped
  | moved (result : Except SourceError Unit)
  | forked (name : Nat)
  | accepted
  | rejected

/-! ## Requests -/

def named {α : Type} (slots : List (Option α)) (name : Nat) : Option α := slots.getD name none

def cursor? (forks : Forks) (who : Nat) : Option Cursor := named forks.cursors who

def flight? (forks : Forks) (id : Nat) : Option Flight := named forks.flights id

/-- The cursor, unless a task uses it. -/
def owned? (forks : Forks) (who : Nat) : Option Cursor :=
  if forks.flights.any (·.any (·.who == who)) then none else forks.cursor? who

def shared? (forks : Forks) (who : Nat) : Option Cursor :=
  if forks.flights.any (·.any fun f => f.who == who && f.task.moves) then none
  else forks.cursor? who

def move (forks : Forks) (who : Nat) (change : Cursor → Except SourceError Cursor) :
    Forks × Reply :=
  match forks.owned? who with
  | none => (forks, .refused)
  | some c =>
    match change c with
    | .ok moved => ({ forks with cursors := forks.cursors.set who (some moved) }, .moved (.ok ()))
    | .error error => (forks, .moved (.error error))

def poll (forks : Forks) (id : Nat) (f : Flight) : Forks × Reply :=
  match f.job.poll forks.buffer [] with
  | { buffer, outcome := .inl (c, found), .. } =>
    ({ buffer
       cursors := forks.cursors.set f.who (some c)
       flights := forks.flights.set id none }, .landed f.who f.task found)
  | { buffer, outcome := .inr job, .. } =>
    ({ forks with buffer, flights := forks.flights.set id (some { f with job }) }, .pending)

def perform (forks : Forks) : Request → Forks × Reply
  | .begin who task =>
    match if task.moves then forks.owned? who else forks.shared? who with
    | none => (forks, .refused)
    | some c =>
      ({ forks with flights := forks.flights ++ [some { who, task, job := task.job c }] },
        .begun forks.flights.length)
  | .poll id =>
    match forks.flight? id with
    | none => (forks, .refused)
    | some f => forks.poll id f
  | .drop id =>
    match forks.flight? id with
    | none => (forks, .refused)
    | some _ => ({ forks with flights := forks.flights.set id none }, .dropped)
  | .tryAdvance who n => forks.move who (·.tryAdvance forks.buffer n)
  | .shift who => forks.move who (·.shift)
  | .unshift who => forks.move who (·.unshift)
  | .branch who =>
    match forks.shared? who with
    | none => (forks, .refused)
    | some c =>
      ({ forks with cursors := forks.cursors ++ [some c] }, .forked forks.cursors.length)
  | .accept parent child =>
    match forks.owned? parent, forks.owned? child with
    | some _, some c =>
      if parent = child then (forks, .refused)
      else
        ({ forks with cursors := (forks.cursors.set parent (some c)).set child none }, .accepted)
    | _, _ => (forks, .refused)
  | .reject child =>
    match forks.owned? child with
    | none => (forks, .refused)
    | some _ => ({ forks with cursors := forks.cursors.set child none }, .rejected)

def after (forks : Forks) (requests : List Request) : Forks :=
  requests.foldl (fun forks request => (forks.perform request).1) forks

/-! ## What may be asked -/

/-- The cursor is there, and no task uses it. -/
def Owned (forks : Forks) (who : Nat) : Prop :=
  (∃ c, forks.cursor? who = some c) ∧ ∀ id f, forks.flight? id = some f → f.who ≠ who

/-- The cursor is there, and no task moves it. -/
def Shared (forks : Forks) (who : Nat) : Prop :=
  (∃ c, forks.cursor? who = some c) ∧
    ∀ id f, forks.flight? id = some f → f.who = who → f.task.moves = false

def Allows (forks : Forks) : Request → Prop
  | .begin who task => if task.moves then forks.Owned who else forks.Shared who
  | .poll id | .drop id => ∃ f, forks.flight? id = some f
  | .tryAdvance who _ | .shift who | .unshift who | .reject who => forks.Owned who
  | .branch who => forks.Shared who
  | .accept parent child => parent ≠ child ∧ forks.Owned parent ∧ forks.Owned child

/-! ## Slots -/

section Slots

variable {α : Type} {slots : List (Option α)} {name other : Nat} {a : α}

theorem lt_of_named (h : named slots name = some a) : name < slots.length := by
  rcases Nat.lt_or_ge name slots.length with hlt | hge
  · exact hlt
  · rw [named, List.getD_eq_getElem?_getD, List.getElem?_eq_none hge] at h
    cases h

theorem named_set (h : named slots name = some a) (slot : Option α) (other : Nat) :
    named (slots.set name slot) other = if other = name then slot else named slots other := by
  have hlt := lt_of_named h
  simp only [named, List.getD_eq_getElem?_getD, List.getElem?_set]
  by_cases hother : other = name
  · subst hother
    simp [hlt]
  · simp [hother, Ne.symm hother]

theorem set_named (h : named slots name = some a) : slots.set name (some a) = slots := by
  have hlt := lt_of_named h
  rw [named, List.getD_eq_getElem?_getD, List.getElem?_eq_getElem hlt] at h
  rw [← h]
  exact List.set_getElem_self hlt

theorem named_append (slots : List (Option α)) (slot : Option α) (name : Nat) :
    named (slots ++ [slot]) name = if name = slots.length then slot else named slots name := by
  simp only [named, List.getD_eq_getElem?_getD]
  by_cases hlt : name < slots.length
  · rw [List.getElem?_append_left hlt, if_neg (Nat.ne_of_lt hlt)]
  · rw [List.getElem?_append_right (Nat.not_lt.mp hlt)]
    by_cases hname : name = slots.length
    · subst hname
      simp
    · rw [if_neg hname, List.getElem?_eq_none (by simp; omega),
        List.getElem?_eq_none (Nat.not_lt.mp hlt)]

theorem any_named (p : α → Bool) :
    slots.any (·.any p) = true ↔ ∃ name a, named slots name = some a ∧ p a = true := by
  simp only [List.any_eq_true, Option.any_eq_true, named, List.getD_eq_getElem?_getD]
  constructor
  · rintro ⟨_, hmem, a, rfl, hp⟩
    obtain ⟨name, hname⟩ := List.getElem?_of_mem hmem
    exact ⟨name, a, by simp [hname], hp⟩
  · rintro ⟨name, a, hname, hp⟩
    cases hslot : slots[name]? with
    | none => simp [hslot] at hname
    | some slot =>
        rw [hslot, Option.getD_some] at hname
        exact ⟨slot, List.mem_of_getElem? hslot, a, hname, hp⟩

end Slots

variable {forks forks' : Forks} {who : Nat} {c : Cursor}

/-- A cursor is given away unless a task stands against it. -/
theorem cursor?_unless_iff {against : Flight → Bool} :
    (if forks.flights.any (·.any against) then none else forks.cursor? who) = some c ↔
      (∀ id f, forks.flight? id = some f → against f = false) ∧ forks.cursor? who = some c := by
  have hused := @any_named Flight forks.flights against
  split
  · next hany =>
      obtain ⟨id, f, hflight, hagainst⟩ := hused.mp hany
      refine ⟨nofun, fun h => ?_⟩
      rw [h.1 id f hflight] at hagainst
      cases hagainst
  · next hnone =>
      refine ⟨fun hc => ⟨fun id f hflight => ?_, hc⟩, And.right⟩
      exact Bool.eq_false_iff.mpr fun hagainst => hnone (hused.mpr ⟨id, f, hflight, hagainst⟩)

theorem owned?_eq_some_iff :
    forks.owned? who = some c ↔ forks.Owned who ∧ forks.cursor? who = some c := by
  rw [owned?, cursor?_unless_iff]
  simp only [beq_eq_false_iff_ne]
  exact ⟨fun ⟨hfree, hc⟩ => ⟨⟨⟨c, hc⟩, hfree⟩, hc⟩, fun ⟨hfree, hc⟩ => ⟨hfree.2, hc⟩⟩

theorem shared?_eq_some_iff :
    forks.shared? who = some c ↔ forks.Shared who ∧ forks.cursor? who = some c := by
  rw [shared?, cursor?_unless_iff]
  simp only [Bool.and_eq_false_imp, beq_iff_eq]
  exact ⟨fun ⟨hfree, hc⟩ => ⟨⟨⟨c, hc⟩, hfree⟩, hc⟩, fun ⟨hfree, hc⟩ => ⟨hfree.2, hc⟩⟩

theorem owned?_eq_none_iff : forks.owned? who = none ↔ ¬ forks.Owned who := by
  rw [Option.eq_none_iff_forall_ne_some]
  refine ⟨fun hnone howned => ?_, fun hnot c hc => hnot (owned?_eq_some_iff.mp hc).1⟩
  obtain ⟨c, hc⟩ := howned.1
  exact hnone c (owned?_eq_some_iff.mpr ⟨howned, hc⟩)

theorem shared?_eq_none_iff : forks.shared? who = none ↔ ¬ forks.Shared who := by
  rw [Option.eq_none_iff_forall_ne_some]
  refine ⟨fun hnone hshared => ?_, fun hnot c hc => hnot (shared?_eq_some_iff.mp hc).1⟩
  obtain ⟨c, hc⟩ := hshared.1
  exact hnone c (shared?_eq_some_iff.mpr ⟨hshared, hc⟩)

/-! ## What a request does -/

/-- What holds of cursors that share an input with the given units. -/
structure Sound (forks : Forks) (units : List Symbol) : Prop where
  content : forks.buffer.content = units
  ends : forks.buffer.ends = true
  within : ∀ who c, forks.cursor? who = some c → c.offset ≤ forks.buffer.size
  /-- A task that waits has not begun to do anything. -/
  inFlight : ∀ id f, forks.flight? id = some f →
    ∃ c, forks.cursor? f.who = some c ∧ f.job = f.task.job c
  /-- A cursor that is being moved is used by nothing else. -/
  alone : ∀ id id' f f', forks.flight? id = some f → forks.flight? id' = some f' →
    f.who = f'.who → f.task.moves = true → id = id'

/-- All ways in which a request can be replied to. -/
inductive Step (forks : Forks) : Request → Reply → Forks → Prop
  | refused {request : Request} : ¬ forks.Allows request → Step forks request .refused forks
  | begun {who : Nat} {task : Task} {c : Cursor} : forks.Allows (.begin who task) →
      forks.cursor? who = some c →
      Step forks (.begin who task) (.begun forks.flights.length)
        { forks with flights := forks.flights ++ [some ⟨who, task, task.job c⟩] }
  | waited {id : Nat} {f : Flight} {c : Cursor} {b : Buffer} : forks.flight? id = some f →
      forks.cursor? f.who = some c → forks.buffer.fill (f.task.upto c) = (b, false) →
      Step forks (.poll id) .pending { forks with buffer := b }
  | landed {id : Nat} {f : Flight} {c : Cursor} {b : Buffer} : forks.flight? id = some f →
      forks.cursor? f.who = some c → forks.buffer.fill (f.task.upto c) = (b, true) →
      Step forks (.poll id) (.landed f.who f.task (f.task.finish c b).2)
        { buffer := b
          cursors := forks.cursors.set f.who (some (f.task.finish c b).1)
          flights := forks.flights.set id none }
  | dropped {id : Nat} {f : Flight} : forks.flight? id = some f →
      Step forks (.drop id) .dropped { forks with flights := forks.flights.set id none }
  | advanced {who n : Nat} {c : Cursor} : forks.Owned who → forks.cursor? who = some c →
      c.offsetAfter forks.buffer n ≤ forks.buffer.size →
      Step forks (.tryAdvance who n) (.moved (.ok ()))
        { forks with
          cursors :=
            forks.cursors.set who (some { c with offset := c.offsetAfter forks.buffer n }) }
  | notAdvanced {who n : Nat} {c : Cursor} : forks.Owned who → forks.cursor? who = some c →
      ¬ c.offsetAfter forks.buffer n ≤ forks.buffer.size →
      Step forks (.tryAdvance who n)
        (.moved (.error (if forks.buffer.exhausted then .pastEnd c.offset n forks.buffer.size
          else .needsInput))) forks
  | shifted {who : Nat} {c : Cursor} : forks.Owned who → forks.cursor? who = some c →
      c.holding = false →
      Step forks (.shift who) (.moved (.ok ()))
        { forks with cursors := forks.cursors.set who (some { c with holding := true }) }
  | notShifted {who : Nat} {c : Cursor} : forks.Owned who → forks.cursor? who = some c →
      c.holding = true → Step forks (.shift who) (.moved (.error .alreadyHolding)) forks
  | unshifted {who : Nat} {c : Cursor} : forks.Owned who → forks.cursor? who = some c →
      c.holding = true →
      Step forks (.unshift who) (.moved (.ok ()))
        { forks with cursors := forks.cursors.set who (some { c with holding := false }) }
  | notUnshifted {who : Nat} {c : Cursor} : forks.Owned who → forks.cursor? who = some c →
      c.holding = false → Step forks (.unshift who) (.moved (.error .notHolding)) forks
  | forked {who : Nat} {c : Cursor} : forks.Shared who → forks.cursor? who = some c →
      Step forks (.branch who) (.forked forks.cursors.length)
        { forks with cursors := forks.cursors ++ [some c] }
  | accepted {parent child : Nat} {c c' : Cursor} : parent ≠ child → forks.Owned parent →
      forks.Owned child → forks.cursor? parent = some c → forks.cursor? child = some c' →
      Step forks (.accept parent child) .accepted
        { forks with cursors := (forks.cursors.set parent (some c')).set child none }
  | rejected {child : Nat} {c : Cursor} : forks.Owned child → forks.cursor? child = some c →
      Step forks (.reject child) .rejected
        { forks with cursors := forks.cursors.set child none }

theorem step_move {request : Request} {change : Cursor → Except SourceError Cursor}
    (hallows : forks.Allows request ↔ forks.Owned who)
    (hmoved : ∀ c, forks.Owned who → forks.cursor? who = some c →
      match change c with
      | .ok moved => Step forks request (.moved (.ok ()))
          { forks with cursors := forks.cursors.set who (some moved) }
      | .error error => Step forks request (.moved (.error error)) forks) :
    Step forks request (forks.move who change).2 (forks.move who change).1 := by
  unfold move
  cases howned : forks.owned? who with
  | none => exact .refused fun hallowed => owned?_eq_none_iff.mp howned (hallows.mp hallowed)
  | some c =>
      obtain ⟨hfree, hc⟩ := owned?_eq_some_iff.mp howned
      have hstep := hmoved c hfree hc
      dsimp only
      cases hchange : change c with
      | ok moved =>
          rw [hchange] at hstep
          exact hstep
      | error error =>
          rw [hchange] at hstep
          exact hstep

theorem step_begin (task : Task) :
    Step forks (.begin who task) (forks.perform (.begin who task)).2
      (forks.perform (.begin who task)).1 := by
  rw [perform]
  cases hmoves : task.moves with
  | true =>
      have hallows : forks.Allows (.begin who task) ↔ forks.Owned who := by
        rw [Allows, if_pos hmoves]
      rw [if_pos rfl]
      cases howned : forks.owned? who with
      | none => exact .refused (mt hallows.mp (owned?_eq_none_iff.mp howned))
      | some c =>
          obtain ⟨hfree, hc⟩ := owned?_eq_some_iff.mp howned
          exact .begun (hallows.mpr hfree) hc
  | false =>
      have hallows : forks.Allows (.begin who task) ↔ forks.Shared who := by
        rw [Allows, if_neg (by simp [hmoves])]
      rw [if_neg (by simp)]
      cases hshared : forks.shared? who with
      | none => exact .refused (mt hallows.mp (shared?_eq_none_iff.mp hshared))
      | some c =>
          obtain ⟨hfree, hc⟩ := shared?_eq_some_iff.mp hshared
          exact .begun (hallows.mpr hfree) hc

theorem step_tryAdvance (n : Nat) :
    Step forks (.tryAdvance who n) (forks.perform (.tryAdvance who n)).2
      (forks.perform (.tryAdvance who n)).1 := by
  refine step_move Iff.rfl fun c howned hc => ?_
  rw [Cursor.tryAdvance]
  by_cases hle : c.offsetAfter forks.buffer n ≤ forks.buffer.size
  · rw [if_pos hle]
    exact .advanced howned hc hle
  · have hstep := @Step.notAdvanced forks who n c howned hc hle
    rw [if_neg hle]
    cases hexhausted : forks.buffer.exhausted with
    | true =>
        rw [hexhausted] at hstep
        exact hstep
    | false =>
        rw [hexhausted] at hstep
        exact hstep

theorem step_accept {parent child : Nat} :
    Step forks (.accept parent child) (forks.perform (.accept parent child)).2
      (forks.perform (.accept parent child)).1 := by
  rw [perform]
  cases hparent : forks.owned? parent with
  | none => exact .refused fun hallowed => owned?_eq_none_iff.mp hparent hallowed.2.1
  | some c =>
      cases hchild : forks.owned? child with
      | none => exact .refused fun hallowed => owned?_eq_none_iff.mp hchild hallowed.2.2
      | some c' =>
          obtain ⟨hfree, hc⟩ := owned?_eq_some_iff.mp hparent
          obtain ⟨hfree', hc'⟩ := owned?_eq_some_iff.mp hchild
          dsimp only
          split
          · next hsame => exact .refused fun hallowed => hallowed.1 hsame
          · next hne => exact .accepted hne hfree hfree' hc hc'

theorem Sound.step_poll {units : List Symbol} (h : forks.Sound units) {id : Nat} {f : Flight}
    (hflight : forks.flight? id = some f) :
    Step forks (.poll id) (forks.poll id f).2 (forks.poll id f).1 := by
  obtain ⟨c, hc, hjob⟩ := h.inFlight id f hflight
  unfold poll
  rw [hjob, Task.job_eq, Job.poll]
  rcases hfill : forks.buffer.fill (f.task.upto c) with ⟨b, enough⟩
  cases enough with
  | true => exact .landed hflight hc hfill
  | false =>
      have hsame : forks.flights.set id (some { f with job := f.task.job c }) = forks.flights := by
        rw [← hjob]
        exact set_named hflight
      rw [Task.job_eq] at hsame
      dsimp only
      rw [hsame]
      exact .waited hflight hc hfill

/-- Every request is replied to in one of these ways. -/
theorem Sound.step {units : List Symbol} (h : forks.Sound units) (request : Request) :
    Step forks request (forks.perform request).2 (forks.perform request).1 := by
  cases request with
  | begin who task => exact step_begin task
  | poll id =>
      rw [perform]
      cases hflight : forks.flight? id with
      | none => exact .refused (show ¬ ∃ f, forks.flight? id = some f by simp [hflight])
      | some f => exact h.step_poll hflight
  | drop id =>
      rw [perform]
      cases hflight : forks.flight? id with
      | none => exact .refused (show ¬ ∃ f, forks.flight? id = some f by simp [hflight])
      | some f => exact .dropped hflight
  | tryAdvance who n => exact step_tryAdvance n
  | shift who =>
      refine step_move Iff.rfl fun c howned hc => ?_
      rw [Cursor.shift]
      cases hholding : c.holding with
      | true => exact .notShifted howned hc hholding
      | false => exact .shifted howned hc hholding
  | unshift who =>
      refine step_move Iff.rfl fun c howned hc => ?_
      rw [Cursor.unshift]
      cases hholding : c.holding with
      | true => exact .unshifted howned hc hholding
      | false => exact .notUnshifted howned hc hholding
  | branch who =>
      rw [perform]
      cases hshared : forks.shared? who with
      | none => exact .refused (show ¬ forks.Shared who from shared?_eq_none_iff.mp hshared)
      | some c =>
          obtain ⟨hfree, hc⟩ := shared?_eq_some_iff.mp hshared
          exact .forked hfree hc
  | accept parent child => exact step_accept
  | reject child =>
      rw [perform]
      cases howned : forks.owned? child with
      | none => exact .refused (show ¬ forks.Owned child from owned?_eq_none_iff.mp howned)
      | some c =>
          obtain ⟨hfree, hc⟩ := owned?_eq_some_iff.mp howned
          exact .rejected hfree hc

/-! ## What every request keeps -/

variable {units : List Symbol}

theorem Sound.grow (h : forks.Sound units) {upto : Nat} {b : Buffer} {enough : Bool}
    (hfill : forks.buffer.fill upto = (b, enough)) : Sound { forks with buffer := b } units := by
  have hsize := forks.buffer.size_fill upto
  rw [hfill] at hsize
  have hgrows := (Buffer.fill_grows h.ends hfill).1
  exact ⟨hgrows.content.trans h.content, hgrows.ends,
    fun who c hc => Nat.le_trans (h.within who c hc) hsize, h.inFlight, h.alone⟩

theorem Allows.free {task : Task} (h : forks.Allows (.begin who task)) {id : Nat} {f : Flight}
    (hflight : forks.flight? id = some f) (hwho : f.who = who) :
    task.moves = false ∧ f.task.moves = false := by
  cases hmoves : task.moves with
  | true =>
      rw [Allows, if_pos hmoves] at h
      exact absurd hwho (h.2 id f hflight)
  | false =>
      rw [Allows, if_neg (by simp [hmoves])] at h
      exact ⟨rfl, h.2 id f hflight hwho⟩

theorem Sound.begin (h : forks.Sound units) {task : Task}
    (hallows : forks.Allows (.begin who task)) (hc : forks.cursor? who = some c) :
    Sound { forks with flights := forks.flights ++ [some ⟨who, task, task.job c⟩] } units := by
  refine ⟨h.content, h.ends, h.within, ?_, ?_⟩
  · intro id f hf
    rw [flight?, named_append] at hf
    split at hf
    · cases hf
      exact ⟨c, hc, rfl⟩
    · exact h.inFlight id f hf
  · intro id id' f f' hf hf' hwho hmoves
    rw [flight?, named_append] at hf hf'
    split at hf
    · split at hf'
      · next hid hid' => exact hid.trans hid'.symm
      · cases hf
        rw [(hallows.free hf' hwho.symm).1] at hmoves
        cases hmoves
    · split at hf'
      · cases hf'
        rw [(hallows.free hf hwho).2] at hmoves
        cases hmoves
      · exact h.alone id id' f f' hf hf' hwho hmoves

theorem Sound.fork (h : forks.Sound units) (hc : forks.cursor? who = some c) :
    Sound { forks with cursors := forks.cursors ++ [some c] } units := by
  refine ⟨h.content, h.ends, ?_, ?_, h.alone⟩
  · intro other c' hc'
    rw [cursor?, named_append] at hc'
    split at hc'
    · cases hc'
      exact h.within who c hc
    · exact h.within other c' hc'
  · intro id f hf
    obtain ⟨c', hc', hjob⟩ := h.inFlight id f hf
    refine ⟨c', ?_, hjob⟩
    rw [cursor?, named_append, if_neg (Nat.ne_of_lt (lt_of_named hc'))]
    exact hc'

theorem Sound.dropFlight (h : forks.Sound units) {id : Nat} {f : Flight}
    (hflight : forks.flight? id = some f) :
    Sound { forks with flights := forks.flights.set id none } units := by
  have hkept : ∀ other g, named (forks.flights.set id none) other = some g →
      forks.flight? other = some g := by
    intro other g hg
    rw [named_set hflight] at hg
    split at hg
    · cases hg
    · exact hg
  exact ⟨h.content, h.ends, h.within, fun other g hg => h.inFlight other g (hkept other g hg),
    fun other other' g g' hg hg' => h.alone other other' g g' (hkept _ _ hg) (hkept _ _ hg')⟩

theorem Sound.setCursor (h : forks.Sound units) (howned : forks.Owned who) (slot : Option Cursor)
    (hslot : ∀ c, slot = some c → c.offset ≤ forks.buffer.size) :
    Sound { forks with cursors := forks.cursors.set who slot } units := by
  obtain ⟨⟨c, hc⟩, hfree⟩ := howned
  refine ⟨h.content, h.ends, ?_, ?_, h.alone⟩
  · intro other c' hc'
    rw [cursor?, named_set hc] at hc'
    split at hc'
    · exact hslot c' hc'
    · exact h.within other c' hc'
  · intro id f hf
    obtain ⟨c', hc', hjob⟩ := h.inFlight id f hf
    refine ⟨c', ?_, hjob⟩
    rw [cursor?, named_set hc, if_neg (hfree id f hf)]
    exact hc'

theorem Owned.setCursor (h : forks.Owned who) {other : Nat} (hne : who ≠ other)
    {c : Cursor} (hc : forks.cursor? other = some c) (slot : Option Cursor) :
    Owned { forks with cursors := forks.cursors.set other slot } who := by
  obtain ⟨⟨c', hc'⟩, hfree⟩ := h
  refine ⟨⟨c', ?_⟩, hfree⟩
  rw [cursor?, named_set hc, if_neg hne]
  exact hc'

/-- A task that lands has its cursor for itself, if it moves it. -/
theorem Sound.owned_of_moves (h : forks.Sound units) {id : Nat} {f : Flight} {c : Cursor}
    (hflight : forks.flight? id = some f) (hc : forks.cursor? f.who = some c)
    (hmoves : f.task.moves = true) :
    Owned { forks with flights := forks.flights.set id none } f.who := by
  refine ⟨⟨c, hc⟩, fun other g hg hwho => ?_⟩
  rw [flight?, named_set hflight] at hg
  split at hg
  · cases hg
  · next hother => exact hother (h.alone id other f g hflight hg hwho.symm hmoves).symm

/-- Every request keeps the cursors sound. -/
theorem Sound.of_step (h : forks.Sound units) {request : Request} {reply : Reply}
    (hstep : Step forks request reply forks') : forks'.Sound units := by
  cases hstep with
  | refused _ => exact h
  | notAdvanced _ _ _ => exact h
  | notShifted _ _ _ => exact h
  | notUnshifted _ _ _ => exact h
  | begun hallows hc => exact h.begin hallows hc
  | waited hflight hc hfill => exact h.grow hfill
  | @landed id f c b hflight hc hfill =>
      have hgrown := h.grow hfill
      have hdropped := hgrown.dropFlight hflight
      cases hmoves : f.task.moves with
      | false =>
          rw [Task.finish_of_moves hmoves, show forks.cursors.set f.who (some c) = forks.cursors
            from set_named hc]
          exact hdropped
      | true =>
          refine hdropped.setCursor (hgrown.owned_of_moves hflight hc hmoves) _ fun c' hc' => ?_
          cases hc'
          exact Task.offset_finish (hgrown.within f.who c hc) f.task
  | dropped hflight => exact h.dropFlight hflight
  | advanced howned hc hle =>
      refine h.setCursor howned _ fun c' hc' => ?_
      cases hc'
      exact hle
  | shifted howned hc _ =>
      have hwithin := h.within _ _ hc
      refine h.setCursor howned _ fun c' hc' => ?_
      cases hc'
      exact hwithin
  | unshifted howned hc _ =>
      have hwithin := h.within _ _ hc
      refine h.setCursor howned _ fun c' hc' => ?_
      cases hc'
      exact hwithin
  | forked _ hc => exact h.fork hc
  | accepted hne howned howned' hc hc' =>
      have hadopted := h.setCursor howned (some _) fun c hsome => by
        cases hsome
        exact h.within _ _ hc'
      exact hadopted.setCursor (howned'.setCursor hne.symm hc _) none nofun
  | rejected howned hc => exact h.setCursor howned none nofun

end Forks

end Backtrack
