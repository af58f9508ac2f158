import Backtrack.Proofs.Input.Content

/-!
Jobs over an input that ends.  If the source reports the end some day, a job that
is polled often enough comes to its end, however often the source makes it wait.
`complete` says what it ends with, and driving a job gives just that.  A job
agrees with itself over the whole input if it reports the same events and has the
same result there; it does if what it looks at is always there in full.
-/

namespace Backtrack

namespace Buffer

/-- The source reports the end some day. -/
def ends (b : Buffer) : Bool := b.feed.all fun feed => !feed.staysOpen

/-- The same input with everything there at once. -/
def whole (b : Buffer) : Buffer := ofUnits b.content

/-- `b'` is `b` after more of the same input has arrived. -/
structure Grows (b b' : Buffer) : Prop where
  content : b'.content = b.content
  ends : b'.ends = true
  waiting : b'.waiting ≤ b.waiting
  reached : ∀ {upto : Nat}, b.Reached upto → b'.Reached upto

theorem Grows.refl {b : Buffer} (h : b.ends = true) : b.Grows b := ⟨rfl, h, Nat.le_refl _, id⟩

theorem Grows.trans {b b₁ b' : Buffer} (h : b.Grows b₁) (h' : b₁.Grows b') : b.Grows b' :=
  ⟨h'.content.trans h.content, h'.ends, Nat.le_trans h'.waiting h.waiting,
    fun hreached => h'.reached (h.reached hreached)⟩

theorem Grows.whole_eq {b b' : Buffer} (h : b.Grows b') : b'.whole = b.whole := by
  rw [whole, whole, h.content]

theorem exhausted_whole (b : Buffer) : b.whole.exhausted = true := rfl

theorem size_whole (b : Buffer) : b.whole.size = b.content.length := by
  simp [whole, ofUnits, size]

theorem whole_of_exhausted {b : Buffer} (h : b.exhausted = true) : b.whole = b := by
  have hunits := units_eq_of_exhausted h
  obtain ⟨units, feed⟩ := b
  have hfeed : feed = none := by simpa [exhausted] using h
  subst hfeed
  rw [whole, ofUnits, ← hunits]

/-! ## Filling until it is enough -/

/-- What a source does that ends: it delivers more, and a fill that fails uses up
one wait. -/
theorem pull_grows {units : Array Symbol} {upto : Nat} {deliveries : List Delivery}
    {b : Buffer} {enough : Bool} (h : pull units false upto deliveries = (b, enough)) :
    b.ends = true ∧ units.size ≤ b.size ∧
      b.waiting + (if enough then 0 else 1) = deliveries.count .wait := by
  induction deliveries generalizing units with
  | nil =>
      rw [pull] at h
      split at h
      · cases h
        exact ⟨rfl, Nat.le_refl _, rfl⟩
      · cases h
        exact ⟨rfl, Nat.le_refl _, rfl⟩
  | cons delivery rest ih =>
      cases delivery with
      | wait =>
          rw [pull] at h
          split at h
          · cases h
            exact ⟨rfl, Nat.le_refl _, rfl⟩
          · cases h
            exact ⟨rfl, Nat.le_refl _, List.count_cons_self.symm⟩
      | chunk more =>
          rw [pull] at h
          split at h
          · cases h
            exact ⟨rfl, Nat.le_refl _, rfl⟩
          · obtain ⟨hends, hsize, hwaiting⟩ := ih h
            have hmore : units.size ≤ (units ++ more).size := by
              rw [← Array.length_toList, ← Array.length_toList, Array.toList_appendList,
                List.length_append]
              omega
            refine ⟨hends, Nat.le_trans hmore hsize, ?_⟩
            rw [hwaiting]
            simp

theorem fill_grows {b b' : Buffer} {upto : Nat} {enough : Bool} (hends : b.ends = true)
    (h : b.fill upto = (b', enough)) :
    b.Grows b' ∧ b'.waiting + (if enough then 0 else 1) = b.waiting := by
  have hcontent := b.content_fill upto
  rw [h] at hcontent
  obtain ⟨units, feed⟩ := b
  cases feed with
  | none =>
      cases h
      exact ⟨.refl hends, rfl⟩
  | some feed =>
      obtain ⟨deliveries, staysOpen⟩ := feed
      have hclosed : staysOpen = false := by simpa [ends] using hends
      subst hclosed
      obtain ⟨hends', hsize, hwaiting⟩ := pull_grows h
      refine ⟨⟨hcontent, hends', ?_, ?_⟩, hwaiting⟩
      · exact Nat.le_trans (Nat.le_add_right _ _) (Nat.le_of_eq hwaiting)
      · rintro n (hreached | hexhausted)
        · exact Or.inl (Nat.le_trans hreached hsize)
        · cases hexhausted

/-- Ask again and again, `waits` times at most, and count how often it took a
wait. -/
def settleWithin (upto : Nat) : Nat → Buffer → Buffer × Nat
  | 0, b => ((b.fill upto).1, 0)
  | waits + 1, b =>
      match b.fill upto with
      | (b, true) => (b, 0)
      | (b, false) => ((settleWithin upto waits b).1, (settleWithin upto waits b).2 + 1)

/-- Fill until `upto` units have arrived or the input has ended. -/
def settle (b : Buffer) (upto : Nat) : Buffer × Nat := settleWithin upto b.waiting b

theorem settle_of_fill {b b' : Buffer} {upto : Nat} (h : b.fill upto = (b', true)) :
    b.settle upto = (b', 0) := by
  unfold settle
  cases b.waiting with
  | zero => rw [settleWithin, h]
  | succ waits => rw [settleWithin, h]

theorem fill_of_exhausted {b : Buffer} (h : b.exhausted = true) (upto : Nat) :
    b.fill upto = (b, true) := by
  have hfeed : b.feed = none := by simpa [exhausted] using h
  rw [fill, hfeed]

theorem settle_of_exhausted {b : Buffer} (h : b.exhausted = true) (upto : Nat) :
    b.settle upto = (b, 0) :=
  settle_of_fill (fill_of_exhausted h upto)

end Buffer

/-! ## What a cursor sees -/

namespace Cursor

variable {c : Cursor} {b : Buffer} {n : Nat}

theorem isDone_whole (h : b.Reached (c.offset + 1)) : c.isDone b = c.isDone b.whole := by
  rcases h with hsize | hexhausted
  · have hlength : b.size ≤ b.content.length := by simp [Buffer.content, Buffer.size]
    have hhere : ¬ b.size ≤ c.offset := by omega
    have hwhole : ¬ b.whole.size ≤ c.offset := by
      rw [b.size_whole]
      omega
    simp [isDone, hhere, hwhole]
  · rw [Buffer.whole_of_exhausted hexhausted]

theorem unit_whole (h : c.offset + 1 ≤ b.size) :
    b.whole.units[c.offset]? = b.units[c.offset]? := by
  have hlt : c.offset < b.units.toList.length := by
    rw [Array.length_toList]
    exact h
  rw [Buffer.whole, Buffer.ofUnits, List.getElem?_toArray, Buffer.content,
    List.getElem?_append_left hlt, Array.getElem?_toList]

theorem value_whole (h : b.Reached (c.offset + 1)) : c.value b = c.value b.whole := by
  rcases h with hsize | hexhausted
  · rw [value, value, unit_whole hsize]
  · rw [Buffer.whole_of_exhausted hexhausted]

theorem atGap_whole (h : b.Reached (c.offset + 1)) : c.atGap b = c.atGap b.whole := by
  rcases h with hsize | hexhausted
  · rw [atGap, atGap, unit_whole hsize]
  · rw [Buffer.whole_of_exhausted hexhausted]

end Cursor

namespace Job

variable {ω α β : Type}

structure Completed (ω α : Type) where
  events : List ω
  /-- How often it had to wait. -/
  waits : Nat
  result : α
  buffer : Buffer

def Completed.andThen (first : Completed ω α) (second : Completed ω β) : Completed ω β :=
  { second with
    events := first.events ++ second.events
    waits := first.waits + second.waits }

/-- Carry a job out to its end over an input that ends. -/
def complete : Job ω α → Buffer → Completed ω α
  | .done result, buffer => { events := [], waits := 0, result, buffer }
  | .emit event rest, b =>
      let completed := rest.complete b
      { completed with events := event :: completed.events }
  | .fill upto rest, b =>
      let completed := (rest (b.settle upto).1).complete (b.settle upto).1
      { completed with waits := (b.settle upto).2 + completed.waits }
  | .pause rest, b =>
      let completed := rest.complete b
      { completed with waits := completed.waits + 1 }

theorem complete_bind (job : Job ω α) (f : α → Job ω β) (b : Buffer) :
    (job.bind f).complete b =
      (job.complete b).andThen
        ((f (job.complete b).result).complete (job.complete b).buffer) := by
  induction job generalizing b with
  | done a => simp [bind, complete, Completed.andThen]
  | emit event rest ih => simp [bind, complete, Completed.andThen, ih]
  | fill upto rest ih => simp [bind, complete, Completed.andThen, ih, Nat.add_assoc]
  | pause rest ih => simp [bind, complete, Completed.andThen, ih, Nat.add_right_comm]

theorem buffer_complete_of_exhausted (job : Job ω α) {b : Buffer} (h : b.exhausted = true) :
    (job.complete b).buffer = b := by
  induction job with
  | done a => rfl
  | emit event rest ih => exact ih
  | fill upto rest ih =>
      rw [complete, Buffer.settle_of_exhausted h]
      exact ih b
  | pause rest ih => exact ih

/-! ## Driving -/

/-- The job ends over `b` as it does over the whole input, only that it may have to
wait for what is there in the whole.  `Q` holds where it ends. -/
structure Agrees (job : Job ω α) (b : Buffer) (Q : α → Buffer → Prop) : Prop where
  events : (job.complete b).events = (job.complete b.whole).events
  result : (job.complete b).result = (job.complete b.whole).result
  waits : (job.complete b).waits + (job.complete b).buffer.waiting =
    (job.complete b.whole).waits + b.waiting
  grows : b.Grows (job.complete b).buffer
  post : Q (job.complete b).result (job.complete b).buffer

theorem agrees_done {a : α} {b : Buffer} {Q : α → Buffer → Prop} (hends : b.ends = true)
    (h : Q a b) : Agrees (.done a : Job ω α) b Q :=
  ⟨rfl, rfl, rfl, .refl hends, h⟩

theorem Agrees.emit {job : Job ω α} {b : Buffer} {Q : α → Buffer → Prop} (h : Agrees job b Q)
    (event : ω) : Agrees (.emit event job) b Q :=
  ⟨congrArg (event :: ·) h.events, h.result, h.waits, h.grows, h.post⟩

theorem Agrees.pause {job : Job ω α} {b : Buffer} {Q : α → Buffer → Prop} (h : Agrees job b Q) :
    Agrees (.pause job) b Q where
  events := h.events
  result := h.result
  waits := by
    have hwaits := h.waits
    simp only [complete]
    omega
  grows := h.grows
  post := h.post

theorem Agrees.bind {job : Job ω α} {f : α → Job ω β} {b : Buffer} {P : α → Buffer → Prop}
    {Q : β → Buffer → Prop} (h : Agrees job b P)
    (hf : ∀ a b₁, b.Grows b₁ → P a b₁ → Agrees (f a) b₁ Q) : Agrees (job.bind f) b Q := by
  have hsecond := hf _ _ h.grows h.post
  have hwhole : (job.complete b.whole).buffer = b.whole :=
    buffer_complete_of_exhausted job b.exhausted_whole
  have hsame := h.grows.whole_eq
  have hstream := complete_bind job f b
  have hover := complete_bind job f b.whole
  rw [hwhole, ← h.result] at hover
  refine ⟨?_, ?_, ?_, ?_, ?_⟩
  · rw [hstream, hover, Completed.andThen, Completed.andThen, h.events, hsecond.events, hsame]
  · rw [hstream, hover, Completed.andThen, Completed.andThen, hsecond.result, hsame]
  · have hfirst := h.waits
    have hwaits := hsecond.waits
    rw [hsame] at hwaits
    simp only [hstream, hover, Completed.andThen]
    omega
  · rw [hstream]
    exact h.grows.trans hsecond.grows
  · rw [hstream]
    exact hsecond.post

end Job

end Backtrack
