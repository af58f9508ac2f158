import Backtrack.Proofs.Input.Forks

/-!
Any interleaving of requests to cursors that share one input.  Nothing of the input is
lost or read twice, a cursor stands where its own requests and the forks accepted into
it have led it, and what a finished task found is what it would find over an input that
is all there, however the input arrives and whatever else was dropped or still waits.
-/

namespace Backtrack

/-! ## What a task finds -/

/-- The longest text that `units` start with, of at most `n` characters. -/
structure LongestText (units : List Symbol) (n : Nat) (text : List Char) : Prop where
  starts : text.map Symbol.char <+: units
  short : text.length ≤ n
  longest : ∀ longer : List Char, longer.map Symbol.char <+: units → longer.length ≤ n →
    longer.length ≤ text.length

theorem longestText_takeWhile (units : List Symbol) (n : Nat) :
    LongestText units n (((units.take n).takeWhile (· != .gap)).filterMap Symbol.char?) := by
  induction units generalizing n with
  | nil =>
      refine ⟨by simp, by simp, fun longer hstarts _ => ?_⟩
      rw [List.prefix_nil, List.map_eq_nil_iff] at hstarts
      simp [hstarts]
  | cons unit rest ih =>
      cases n with
      | zero => exact ⟨by simp, by simp, fun _ _ hshort => by simpa using hshort⟩
      | succ n =>
          cases unit with
          | gap =>
              refine ⟨by simp, by simp, fun longer hstarts _ => ?_⟩
              cases longer with
              | nil => simp
              | cons c longer => simp at hstarts
          | char c =>
              obtain ⟨hstarts, hshort, hlongest⟩ := ih n
              rw [List.take_succ_cons, List.takeWhile_cons_of_pos rfl,
                List.filterMap_cons_some (by rfl)]
              refine ⟨?_, ?_, ?_⟩
              · rw [List.map_cons]
                exact (List.prefix_cons_inj _).mpr hstarts
              · simpa using hshort
              · intro longer hlonger hlength
                cases longer with
                | nil => simp
                | cons d longer =>
                    rw [List.map_cons, List.cons_prefix_cons] at hlonger
                    simpa using hlongest longer hlonger.2 (by simpa using hlength)

/-- How a task ends over `units`, with the cursor before and after it. -/
inductive Task.Lands (units : List Symbol) (c : Cursor) : Task → Cursor → Found → Prop
  | advanced {n : Nat} : c.offset + n ≤ units.length →
      Lands units c (.advance n) { c with offset := c.offset + n } (.moved (.ok ()))
  | pastEnd {n : Nat} : units.length < c.offset + n →
      Lands units c (.advance n) c (.moved (.error (.pastEnd c.offset n units.length)))
  | filled {upto : Nat} : Lands units c (.fill upto) c .filled
  | primed : Lands units c .prime c .filled
  | held {n : Nat} : c.holding = true → Lands units c (.peek n) c (.text [])
  | peeked {n : Nat} {text : List Char} : c.holding = false →
      LongestText (units.drop c.offset) n text → Lands units c (.peek n) c (.text text)

/-- How many units beyond its cursor the task asks for. -/
def Task.span : Task → Nat
  | .advance n => n + 1
  | .peek n => n
  | .fill _ | .prime => 0

/-- A task that has the units it waits for ends as it would over the whole input, if they
can be counted. -/
theorem Task.lands_finish {c : Cursor} {b : Buffer} {task : Task}
    (hoffset : c.offset ≤ b.content.length) (hspan : b.content.length + task.span < UInt64.size)
    (h : b.Reached (task.upto c)) :
    task.Lands b.content c (task.finish c b).1 (task.finish c b).2 := by
  have hlength := b.size_le_length
  cases task with
  | advance n =>
      rw [span] at hspan
      rw [upto, Nat.mod_eq_of_lt (by omega)] at h
      rw [finish_advance, Cursor.offsetAfter_of_lt b (by omega)]
      split
      · next hle => exact .advanced (Nat.le_trans hle hlength)
      · next hgt =>
          -- More than this would have been waited for, so the input has ended.
          have hexhausted : b.exhausted = true := h.resolve_left fun hle => by omega
          have hsize : b.size = b.content.length := by
            rw [← Buffer.units_eq_of_exhausted hexhausted]
            simp [Buffer.size]
          rw [if_pos hexhausted, hsize]
          exact .pastEnd (by omega)
  | fill upto => exact .filled
  | prime => exact .primed
  | peek n =>
      rw [span] at hspan
      rw [upto, Nat.mod_eq_of_lt (by omega)] at h
      rw [finish, Cursor.textAhead_eq_ahead h, Cursor.ahead]
      cases hholding : c.holding with
      | true => exact .held hholding
      | false => exact .peeked hholding (longestText_takeWhile _ n)

/-- What is seen under the cursor is what would be seen if all of the input were there. -/
structure Cursor.Exact (c : Cursor) (b : Buffer) (units : List Symbol) : Prop where
  value : c.value b = c.value (.ofUnits units)
  atGap : c.atGap b = c.atGap (.ofUnits units)
  isDone : c.isDone b = c.isDone (.ofUnits units)

theorem Cursor.exact_of_reached {c : Cursor} {b : Buffer} (h : b.Reached (c.offset + 1)) :
    c.Exact b b.content :=
  ⟨value_whole h, atGap_whole h, isDone_whole h⟩

theorem Task.reached_finish {c : Cursor} {b : Buffer} {task : Task}
    (hoffset : c.offset ≤ b.content.length) (hspan : b.content.length + task.span < UInt64.size)
    (h : b.Reached (task.upto c)) (htask : task = .prime ∨ task.moves = true) :
    b.Reached ((task.finish c b).1.offset + 1) := by
  cases task with
  | advance n =>
      rw [span] at hspan
      rw [upto, Nat.mod_eq_of_lt (by omega)] at h
      rw [finish_advance, Cursor.offsetAfter_of_lt b (by omega)]
      split
      · exact h
      · next hgt => exact Or.inr (h.resolve_left fun hle => by omega)
  | prime => exact h
  | fill upto => simp [moves] at htask
  | peek n => simp [moves] at htask

namespace Forks

def log (forks : Forks) : List Request → List (Request × Reply)
  | [] => []
  | request :: rest => (request, (forks.perform request).2) :: (forks.perform request).1.log rest

/-! ## What a cursor did itself -/

/-- What led a cursor to its place. -/
inductive Trail where
  | start
  | forked (parent : Trail)
  | advanced (n : Nat) (before : Trail)
  | shifted (before : Trail)
  | unshifted (before : Trail)
  | adopted (child before : Trail)

/-- The place that a trail leads to, whatever the input. -/
def Trail.place : Trail → Cursor
  | .start => {}
  | .forked parent => parent.place
  | .advanced n before => { before.place with offset := before.place.offset + n }
  | .shifted before => { before.place with holding := true }
  | .unshifted before => { before.place with holding := false }
  | .adopted child _ => child.place

def follow (trails : List (Option Trail)) (who : Nat) (on : Trail → Trail) :
    List (Option Trail) :=
  match named trails who with
  | none => trails
  | some trail => trails.set who (some (on trail))

/-- The trails after a request, as the reply tells. -/
def noted (trails : List (Option Trail)) : Request → Reply → List (Option Trail)
  | .poll _, .landed who (.advance n) (.moved (.ok ())) => follow trails who (.advanced n)
  | .tryAdvance who n, .moved (.ok ()) => follow trails who (.advanced n)
  | .shift who, .moved (.ok ()) => follow trails who .shifted
  | .unshift who, .moved (.ok ()) => follow trails who .unshifted
  | .branch who, .forked _ => trails ++ [(named trails who).map .forked]
  | .accept parent child, .accepted =>
    match named trails child with
    | none => trails
    | some trail => (follow trails parent (.adopted trail)).set child none
  | .reject child, .rejected => trails.set child none
  | _, _ => trails

/-- The trails of all cursors, told from the requests and the replies. -/
def trails (log : List (Request × Reply)) : List (Option Trail) :=
  log.foldl (fun trails entry => noted trails entry.1 entry.2) [some .start]

variable {forks forks' : Forks} {units : List Symbol} {trails : List (Option Trail)}

/-- How many units beyond a cursor the request asks for. -/
def Request.span : Request → Nat
  | .begin _ task => task.span
  | .tryAdvance _ n => n
  | _ => 0

/-- What the tasks in flight ask for can be counted, from everywhere in `units`. -/
def Countable (forks : Forks) (units : List Symbol) : Prop :=
  ∀ id f, forks.flight? id = some f → units.length + f.task.span < UInt64.size

theorem Sound.offset_le (h : forks.Sound units) {who : Nat} {c : Cursor}
    (hc : forks.cursor? who = some c) : c.offset ≤ units.length := by
  rw [← h.content]
  exact Nat.le_trans (h.within who c hc) forks.buffer.size_le_length

def Reply.changes : Reply → Bool
  | .landed _ _ (.moved (.ok ())) => true
  | .moved (.ok ()) => true
  | .forked _ => true
  | .accepted => true
  | .rejected => true
  | _ => false

def Reply.isPending : Reply → Bool
  | .pending => true
  | _ => false

/-- The cursors that a request is about. -/
def Concerns (request : Request) (reply : Reply) (who : Nat) : Prop :=
  match request, reply with
  | .poll _, .landed mover _ _ => who = mover
  | .tryAdvance mover _, _ | .shift mover, _ | .unshift mover, _ => who = mover
  | .branch _, .forked name => who = name
  | .accept parent child, _ => who = parent ∨ who = child
  | .reject child, _ => who = child
  | _, _ => False

/-- A pending poll uses up one wait of the source, and nothing else does. -/
theorem Sound.waiting_of_step (h : forks.Sound units) {request : Request} {reply : Reply}
    (hstep : Step forks request reply forks') :
    (if reply.isPending then 1 else 0) + forks'.buffer.waiting = forks.buffer.waiting := by
  cases hstep with
  | @waited id f c b _ _ hfill =>
      have hwaiting := (Buffer.fill_grows h.ends hfill).2
      exact (Nat.add_comm _ _).trans hwaiting
  | @landed id f c b _ _ hfill =>
      have hwaiting := (Buffer.fill_grows h.ends hfill).2
      exact (Nat.zero_add _).trans hwaiting
  | _ => exact Nat.zero_add _

/-- What has arrived stays, whatever is asked for later. -/
theorem Sound.grows_after (h : forks.Sound units) (later : List Request) :
    forks.buffer.Grows (forks.after later).buffer := by
  induction later generalizing forks with
  | nil => exact .refl h.ends
  | cons request rest ih =>
      have hstep := h.step request
      have hgrows : forks.buffer.Grows (forks.perform request).1.buffer := by
        generalize (forks.perform request).1 = forks' at hstep
        generalize (forks.perform request).2 = reply at hstep
        cases hstep with
        | waited _ _ hfill => exact (Buffer.fill_grows h.ends hfill).1
        | landed _ _ hfill => exact (Buffer.fill_grows h.ends hfill).1
        | _ => exact .refl h.ends
      exact hgrows.trans (ih (h.of_step hstep))

section

variable {request : Request} {reply : Reply} (hstep : Step forks request reply forks')

include hstep

theorem Step.kept (h : reply.changes = false) : forks'.cursors = forks.cursors := by
  cases hstep with
  | @landed id f c b _ hc _ =>
      have hsame : forks.cursors.set f.who (some c) = forks.cursors := set_named hc
      cases htask : f.task with
      | advance n =>
          rw [htask, Task.finish_advance] at h
          rw [Task.finish_advance]
          split at h
          · cases h
          · next hgt =>
              rw [if_neg hgt]
              split <;> exact hsame
      | fill upto => exact hsame
      | prime => exact hsame
      | peek n => exact hsame
  | advanced _ _ _ => cases h
  | shifted _ _ _ => cases h
  | unshifted _ _ _ => cases h
  | forked _ _ => cases h
  | accepted _ _ _ _ _ => cases h
  | rejected _ _ => cases h
  | _ => rfl

theorem Step.others {who : Nat} (h : ¬ Concerns request reply who) :
    forks'.cursor? who = forks.cursor? who := by
  cases hstep with
  | landed _ hc _ => exact (named_set hc _ _).trans (if_neg h)
  | advanced _ hc _ => exact (named_set hc _ _).trans (if_neg h)
  | shifted _ hc _ => exact (named_set hc _ _).trans (if_neg h)
  | unshifted _ hc _ => exact (named_set hc _ _).trans (if_neg h)
  | forked _ _ => exact (named_append _ _ _).trans (if_neg h)
  | @accepted parent child c c' hne _ _ hc hc' =>
      obtain ⟨hparent, hchild⟩ := not_or.mp h
      have hstill : named (forks.cursors.set parent (some c')) child = some c' := by
        rw [named_set hc, if_neg hne.symm]
        exact hc'
      rw [cursor?, named_set hstill, if_neg hchild, named_set hc, if_neg hparent, cursor?]
  | rejected _ hc => exact (named_set hc _ _).trans (if_neg h)
  | _ => rfl

theorem Step.polled {id : Nat} {f : Flight} (hpoll : request = .poll id)
    (hflight : forks.flight? id = some f) :
    reply = .pending ∨ ∃ found, reply = .landed f.who f.task found := by
  cases hstep with
  | refused hnot =>
      subst hpoll
      exact absurd ⟨f, hflight⟩ hnot
  | waited _ _ _ => exact Or.inl rfl
  | landed hflight' _ _ =>
      cases hpoll
      rw [hflight] at hflight'
      cases hflight'
      exact Or.inr ⟨_, rfl⟩
  | _ => cases hpoll

end

/-- Only the end of the input is taken for its end. -/
theorem Sound.pastEnd (h : forks.Sound units) {request : Request} {offset n length : Nat}
    (hspan : units.length + request.span < UInt64.size)
    (hstep : Step forks request (.moved (.error (.pastEnd offset n length))) forks') :
    length = units.length ∧ units.length < offset + n := by
  generalize hreply : Reply.moved (.error (.pastEnd offset n length)) = reply at hstep
  cases hstep with
  | notAdvanced _ hc hgt =>
      have hoffset := h.offset_le hc
      rw [Request.span] at hspan
      rw [Cursor.offsetAfter_of_lt _ (by omega)] at hgt
      split at hreply
      · next hexhausted =>
          cases hreply
          have hsize : forks.buffer.size = units.length := by
            rw [← h.content, ← Buffer.units_eq_of_exhausted hexhausted]
            simp [Buffer.size]
          omega
      · cases hreply
  | _ => cases hreply

theorem Sound.landed (h : forks.Sound units) (hcountable : forks.Countable units)
    {request : Request} {who : Nat} {task : Task} {found : Found} (hstep : Step forks request (.landed who task found) forks') :
    ∃ c c', forks.cursor? who = some c ∧ forks'.cursor? who = some c' ∧
      task.Lands units c c' found ∧
      (task = .prime ∨ task.moves = true →
        ∀ later, c'.Exact (forks'.after later).buffer units) := by
  have hsound := h.of_step hstep
  cases hstep with
  | @landed id f c b hflight hc hfill =>
      have hreached := Buffer.reached_fill hfill
      have hcontent : b.content = units := hsound.content
      have hoffset : c.offset ≤ b.content.length := hcontent ▸ h.offset_le hc
      have hspan : b.content.length + f.task.span < UInt64.size :=
        hcontent ▸ hcountable id f hflight
      refine ⟨c, (f.task.finish c b).1, hc, ?_, ?_, ?_⟩
      · rw [cursor?, named_set hc, if_pos rfl]
      · rw [← hcontent]
        exact Task.lands_finish hoffset hspan hreached
      · intro htask later
        have hgrows := hsound.grows_after later
        have hlater := Cursor.exact_of_reached
          (hgrows.reached (Task.reached_finish hoffset hspan hreached htask))
        rw [hgrows.content, hcontent] at hlater
        exact hlater

def pendings (log : List (Request × Reply)) : Nat := log.countP (·.2.isPending)

/-- A run keeps the cursors sound, and counts the waits. -/
theorem Sound.after (h : forks.Sound units) (requests : List Request) :
    (forks.after requests).Sound units ∧
      pendings (forks.log requests) + (forks.after requests).buffer.waiting =
        forks.buffer.waiting := by
  induction requests generalizing forks with
  | nil => exact ⟨h, Nat.zero_add _⟩
  | cons request rest ih =>
      have hstep := h.step request
      obtain ⟨hsound, hpendings⟩ := ih (h.of_step hstep)
      refine ⟨hsound, ?_⟩
      have hwaiting := h.waiting_of_step hstep
      have hafter : forks.after (request :: rest) = (forks.perform request).1.after rest := rfl
      rw [pendings] at hpendings ⊢
      rw [log, hafter, List.countP_cons, Nat.add_right_comm, hpendings, Nat.add_comm]
      exact hwaiting

/-- Asks to go from the second unit so far that the sum comes to zero. -/
def wrapped : List Request :=
  [.begin 0 (.advance 1), .poll 0, .begin 0 (.advance (UInt64.size - 1))]

end Forks

end Backtrack
