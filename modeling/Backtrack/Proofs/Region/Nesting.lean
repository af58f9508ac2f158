import Backtrack.Proofs.Region

/-!
Regions along well nested nodes.  A construct is begun by one node and ended by a later
one, so its span outlives the node that began it, and a node that begins or ends a
construct may have a span of its own.  Where nodes and constructs are well nested, all of
them are taken without a failure, the regions come back as they were, and on the way the
innermost guard is always that of the innermost construct that is open and has a span.
-/

namespace Backtrack

/-- A node is opened or closed. -/
inductive RegionEvent where
  | enter (tag : OpenTag)
  | leave (tag : OpenTag)
  deriving DecidableEq, Repr

namespace OpenTag

/-- What closes the construct that the tag begins.  None if it begins none. -/
def closer? (tag : OpenTag) : Option String := tag.attributes.text? "balanced"

/-- The guard of the span that comes with the construct, if one does. -/
def spanGuard? (tag : OpenTag) : Option String :=
  if (tag.attributes.text? "balancedSpan").isSome then tag.closer? else none

/-- The construct that waits for its closer once the tag has begun it. -/
def construct (tag : OpenTag) : BalancedEntry where
  nodeType := tag.typeName
  closer := tag.closer?.getD ""
  pushedSpan := (tag.attributes.text? "balancedSpan").isSome

structure IsPlain (tag : OpenTag) : Prop where
  not_balancer : tag.isBalancer = false
  not_opener : tag.closer? = none

structure IsOpener (tag : OpenTag) : Prop where
  not_balancer : tag.isBalancer = false
  opener : tag.closer?.isSome = true

structure IsCloser (tag : OpenTag) : Prop where
  balancer : tag.isBalancer = true
  not_opener : tag.closer? = none

end OpenTag

namespace RegionEvent

/-- Nodes and constructs, one inside of the other.  A construct is begun by one node and
ended by a later one, with something well nested in each of the two and between them. -/
inductive WellNested : List RegionEvent → Prop
  | nil : WellNested []
  | append {u v : List RegionEvent} : WellNested u → WellNested v → WellNested (u ++ v)
  | node {tag : OpenTag} {word : List RegionEvent} : tag.IsPlain → WellNested word →
      WellNested ([enter tag] ++ (word ++ [leave tag]))
  | construct {opener closer : OpenTag} {u v w : List RegionEvent} :
      opener.IsOpener → closer.IsCloser → WellNested u → WellNested v → WellNested w →
      WellNested ([enter opener] ++ (u ++ ([leave opener] ++
        (v ++ ([enter closer] ++ (w ++ [leave closer]))))))

/-- The tags whose constructs wait for their closer after the event, innermost first, if
those of `openers` did before. -/
def waitingAfter (openers : List OpenTag) : RegionEvent → List OpenTag
  | enter tag =>
    let openers := if tag.isBalancer then openers.tail else openers
    if tag.closer?.isSome then tag :: openers else openers
  | leave _ => openers

/-- The tags whose constructs the events have begun and not ended, innermost first. -/
def waiting (events : List RegionEvent) : List OpenTag := events.foldl waitingAfter []

/-- The guard of the innermost construct that has a span. -/
def guard? (openers : List OpenTag) : Option String := openers.findSome? (·.spanGuard?)

end RegionEvent

namespace Regions

open RegionEvent

variable {r r' r₁ start : Regions} {tag opener closer : OpenTag}
  {openers openers' openers₁ : List OpenTag} {u v word : List RegionEvent}

def take (r : Regions) : RegionEvent → Regions × Except Error Unit
  | .enter tag => r.enter tag
  | .leave tag => r.leave tag

/-- Take events one after the other, up to the first failure. -/
def takeAll (r : Regions) : List RegionEvent → Except Error Regions
  | [] => .ok r
  | event :: rest =>
    match r.take event with
    | (r, .ok ()) => r.takeAll rest
    | (_, .error e) => .error e

theorem takeAll_append (h : r.takeAll u = .ok r₁) (v : List RegionEvent) :
    r.takeAll (u ++ v) = r₁.takeAll v := by
  induction u generalizing r with
  | nil =>
      cases h
      rfl
  | cons event rest ih =>
      rw [takeAll] at h
      rw [List.cons_append, takeAll]
      split at h
      · exact ih h
      · cases h

theorem takeAll_singleton {event : RegionEvent} (h : r.take event = (r', .ok ())) :
    r.takeAll [event] = .ok r' := by
  rw [takeAll, h]
  rfl

/-! ## One node -/

@[simp] theorem balanced_beginSpan (r : Regions) (tag : OpenTag) :
    (r.beginSpan tag).balanced = r.balanced := by
  unfold beginSpan
  split <;> rfl

@[simp] theorem guard_beginSpan (r : Regions) (tag : OpenTag) :
    (r.beginSpan tag).spans.guard = r.spans.guard := by
  unfold beginSpan
  split <;> rfl

theorem leave_beginSpan (r : Regions) (tag : OpenTag) :
    (r.beginSpan tag).leave tag = (r, .ok ()) := by
  unfold beginSpan leave
  cases tag.attributes.text? "span" <;> rfl

theorem beginBalanced_of_none (h : tag.closer? = none) (r : Regions) :
    r.beginBalanced tag = r := by
  rw [OpenTag.closer?] at h
  rw [beginBalanced, h]

theorem balanced_beginBalanced (h : opener.IsOpener) (r : Regions) :
    (r.beginBalanced opener).balanced = opener.construct :: r.balanced := by
  obtain ⟨text, htext⟩ := Option.isSome_iff_exists.mp h.opener
  rw [OpenTag.construct, htext]
  rw [OpenTag.closer?] at htext
  rw [beginBalanced, htext]
  cases opener.attributes.text? "balancedSpan" <;> rfl

theorem guard_beginBalanced (h : opener.IsOpener) (r : Regions) :
    (r.beginBalanced opener).spans.guard = opener.spanGuard?.or r.spans.guard := by
  obtain ⟨text, htext⟩ := Option.isSome_iff_exists.mp h.opener
  rw [OpenTag.spanGuard?, htext]
  rw [OpenTag.closer?] at htext
  rw [beginBalanced, htext]
  cases opener.attributes.text? "balancedSpan" <;> rfl

/-- Ending a construct takes back what beginning it did. -/
theorem endBalanced_beginBalanced (h : opener.IsOpener) (r : Regions) (tag : OpenTag) :
    (r.beginBalanced opener).endBalanced tag = (r, .ok ()) := by
  obtain ⟨text, htext⟩ := Option.isSome_iff_exists.mp h.opener
  rw [OpenTag.closer?] at htext
  rw [beginBalanced, htext]
  cases opener.attributes.text? "balancedSpan" <;> rfl

theorem enter_plain (h : tag.IsPlain) (r : Regions) :
    r.enter tag = (r.beginSpan tag, .ok ()) := by
  rw [enter_of_not_isBalancer h.not_balancer, beginBalanced_of_none h.not_opener]

theorem enter_closer_of_begun (hopener : opener.IsOpener) (hcloser : closer.IsCloser)
    (r : Regions) : (r.beginBalanced opener).enter closer = (r.beginSpan closer, .ok ()) := by
  rw [enter_of_isBalancer hcloser.balancer, endBalanced_beginBalanced hopener]
  simp only [beginBalanced_of_none hcloser.not_opener]

/-! ## Standing over the regions at the start -/

/-- The regions at the start, with the constructs of `openers` begun since. -/
structure Over (start : Regions) (openers : List OpenTag) (r : Regions) : Prop where
  balanced : r.balanced = openers.map OpenTag.construct ++ start.balanced
  guard : r.spans.guard = (guard? openers).or start.spans.guard

theorem over_nil (r : Regions) : r.Over [] r := ⟨rfl, rfl⟩

theorem Over.beginSpan (h : start.Over openers r) (tag : OpenTag) :
    start.Over openers (r.beginSpan tag) :=
  ⟨(balanced_beginSpan r tag).trans h.balanced, (guard_beginSpan r tag).trans h.guard⟩

theorem Over.beginBalanced (h : start.Over openers r) (hopener : opener.IsOpener) :
    start.Over (opener :: openers) (r.beginBalanced opener) := by
  refine ⟨?_, ?_⟩
  · rw [balanced_beginBalanced hopener, h.balanced]
    rfl
  · rw [guard_beginBalanced hopener, h.guard, guard?, guard?, List.findSome?_cons]
    cases opener.spanGuard? <;> rfl

/-! ## Passing events -/

/-- The events lead from `r` to `r'` without a failure, and wherever one stands on the
way, the constructs that wait are those that the events so far have left open. -/
structure Passes (start : Regions) (openers : List OpenTag) (r : Regions)
    (events : List RegionEvent) (openers' : List OpenTag) (r' : Regions) : Prop where
  takeAll : r.takeAll events = .ok r'
  waiting : events.foldl waitingAfter openers = openers'
  inside : start.Over openers r → ∀ before, before <+: events →
    ∃ r₁, r.takeAll before = .ok r₁ ∧ start.Over (before.foldl waitingAfter openers) r₁

theorem Passes.over (h : Passes start openers r u openers' r') (hover : start.Over openers r) :
    start.Over openers' r' := by
  obtain ⟨r₁, htake, hover₁⟩ := h.inside hover u List.prefix_rfl
  rw [h.takeAll, Except.ok.injEq] at htake
  rw [htake, ← h.waiting]
  exact hover₁

theorem passes_nil (start : Regions) (openers : List OpenTag) (r : Regions) :
    Passes start openers r [] openers r where
  takeAll := rfl
  waiting := rfl
  inside hover before hbefore := by
    rw [List.prefix_nil.mp hbefore]
    exact ⟨r, rfl, hover⟩

theorem Passes.append (h : Passes start openers r u openers₁ r₁)
    (h' : Passes start openers₁ r₁ v openers' r') :
    Passes start openers r (u ++ v) openers' r' where
  takeAll := (takeAll_append h.takeAll v).trans h'.takeAll
  waiting := by rw [List.foldl_append, h.waiting, h'.waiting]
  inside hover before hbefore := by
    rcases List.prefix_or_prefix_of_prefix hbefore (List.prefix_append u v) with
      hfirst | ⟨rest, rfl⟩
    · exact h.inside hover before hfirst
    · have hsecond := (List.prefix_append_right_inj u).mp hbefore
      obtain ⟨r₂, htake, hover₂⟩ := h'.inside (h.over hover) rest hsecond
      refine ⟨r₂, (takeAll_append h.takeAll rest).trans htake, ?_⟩
      rw [List.foldl_append, h.waiting]
      exact hover₂

theorem passes_singleton {event : RegionEvent} (htake : r.take event = (r', .ok ()))
    (hwaiting : waitingAfter openers event = openers')
    (hover : start.Over openers r → start.Over openers' r') :
    Passes start openers r [event] openers' r' where
  takeAll := takeAll_singleton htake
  waiting := hwaiting
  inside hstart before hbefore := by
    rcases List.prefix_cons_iff.mp hbefore with rfl | ⟨rest, rfl, hrest⟩
    · exact ⟨r, rfl, hstart⟩
    · rw [List.prefix_nil.mp hrest]
      refine ⟨r', takeAll_singleton htake, ?_⟩
      rw [List.foldl_cons, hwaiting]
      exact hover hstart

theorem passes_enter_plain (h : tag.IsPlain) :
    Passes start openers r [.enter tag] openers (r.beginSpan tag) := by
  refine passes_singleton (enter_plain h r) ?_ fun hover => hover.beginSpan tag
  simp [waitingAfter, h.not_balancer, h.not_opener]

theorem passes_enter_opener (h : opener.IsOpener) :
    Passes start openers r [.enter opener] (opener :: openers)
      ((r.beginBalanced opener).beginSpan opener) := by
  refine passes_singleton (enter_of_not_isBalancer h.not_balancer r) ?_
    fun hover => (hover.beginBalanced h).beginSpan opener
  simp [waitingAfter, h.not_balancer, h.opener]

theorem passes_enter_closer (hopener : opener.IsOpener) (hcloser : closer.IsCloser)
    (hover : start.Over openers r) :
    Passes start (opener :: openers) (r.beginBalanced opener) [.enter closer] openers
      (r.beginSpan closer) := by
  refine passes_singleton (enter_closer_of_begun hopener hcloser r) ?_
    fun _ => hover.beginSpan closer
  simp [waitingAfter, hcloser.balancer, hcloser.not_opener]

theorem passes_leave (hover : start.Over openers r) (tag : OpenTag) :
    Passes start openers (r.beginSpan tag) [.leave tag] openers r :=
  passes_singleton (leave_beginSpan r tag) rfl fun _ => hover

/-- A well nested word leads back to where it began. -/
theorem passes_of_wellNested (h : WellNested word) (hover : start.Over openers r) :
    Passes start openers r word openers r := by
  -- The regions on which the inner words stand differ, so the induction is over all of them.
  induction h generalizing openers r with
  | nil => exact passes_nil start openers r
  | append _ _ ih ih' => exact (ih hover).append (ih' hover)
  | @node tag word hplain _ ih =>
      have hinside := ih (hover.beginSpan tag)
      exact (passes_enter_plain hplain).append (hinside.append (passes_leave hover tag))
  | @construct opener closer u v w hopener hcloser _ _ _ ihu ihv ihw =>
      have hbegun := hover.beginBalanced hopener
      have hopened := ihu (hbegun.beginSpan opener)
      have hbetween := ihv hbegun
      have hclosed := ihw (hover.beginSpan closer)
      exact (passes_enter_opener hopener).append <|
        hopened.append <|
        (passes_leave hbegun opener).append <|
        hbetween.append <|
        (passes_enter_closer hopener hcloser hover).append <|
        hclosed.append (passes_leave hover closer)

/-- A well nested word is taken without a failure and leaves the regions as they were.
After any part of it the constructs that wait are those that it has begun and not ended,
on top of those that waited before, and the guard is that of the innermost of its own that
has a span, or the one from before if none has. -/
theorem restored_of_wellNested (h : WellNested word) (r : Regions) :
    r.takeAll word = .ok r ∧ waiting word = [] ∧
      ∀ before, before <+: word → ∃ r', r.takeAll before = .ok r' ∧
        r'.balanced = (waiting before).map OpenTag.construct ++ r.balanced ∧
        r'.spans.guard = (guard? (waiting before)).or r.spans.guard := by
  have hpasses := passes_of_wellNested h (over_nil r)
  refine ⟨hpasses.takeAll, hpasses.waiting, fun before hbefore => ?_⟩
  obtain ⟨r', htake, hover⟩ := hpasses.inside (over_nil r) before hbefore
  exact ⟨r', htake, hover.balanced, hover.guard⟩

/-! ## A string inside of brackets -/

def bracketOpener : OpenTag :=
  (OpenTag.typed "Punctuator").withAttribute "balanced" (.text "]")
    |>.withAttribute "balancedSpan" (.text "Bracketed")
    |>.withAttribute "span" (.text "Sign")

def parenOpener : OpenTag :=
  (OpenTag.typed "Punctuator").withAttribute "balanced" (.text ")")

def bracketCloser : OpenTag :=
  (OpenTag.typed "Punctuator").withAttribute "balancer" (.bool true)
    |>.withAttribute "span" (.text "Sign")

def quotedString : OpenTag := (OpenTag.typed "String").withAttribute "span" (.text "Quoted")

/-- The first part of a word, up to the inside of the string. -/
def insideString : List RegionEvent :=
  [.enter bracketOpener, .leave bracketOpener, .enter parenOpener, .leave parenOpener,
    .enter quotedString]

def pastString : List RegionEvent :=
  [.leave quotedString, .enter bracketCloser, .leave bracketCloser, .enter bracketCloser,
    .leave bracketCloser]

theorem wellNested_bracketedString : WellNested (insideString ++ pastString) := by
  have hcloser : bracketCloser.IsCloser := ⟨by decide +kernel, by decide +kernel⟩
  have hstring : WellNested ([.enter quotedString] ++ ([] ++ [.leave quotedString])) :=
    .node ⟨by decide +kernel, by decide +kernel⟩ .nil
  have hparen : parenOpener.IsOpener := ⟨by decide +kernel, by decide +kernel⟩
  have hbracket : bracketOpener.IsOpener := ⟨by decide +kernel, by decide +kernel⟩
  exact .construct hbracket hcloser .nil (.construct hparen hcloser .nil hstring .nil) .nil

/-- In the string the guard is the bracket, although a parenthesis was opened inside of
it. -/
theorem restored_of_wellNested_bracketedString :
    WellNested (insideString ++ pastString) ∧
      (ofName "Bare").takeAll (insideString ++ pastString) = .ok (ofName "Bare") ∧
      ∃ r', (ofName "Bare").takeAll insideString = .ok r' ∧
        r'.balanced.map (·.closer) = [")", "]"] ∧ r'.spans.guard = some "]" := by
  obtain ⟨hwhole, _, hinside⟩ :=
    restored_of_wellNested wellNested_bracketedString (ofName "Bare")
  obtain ⟨r', htake, hbalanced, hguard⟩ := hinside insideString (List.prefix_append _ _)
  refine ⟨wellNested_bracketedString, hwhole, r', htake, ?_, ?_⟩
  · rw [hbalanced]
    decide +kernel
  · rw [hguard]
    decide +kernel

end Regions

end Backtrack
