import Backtrack.Proofs.Builder.Mirror

/-!
Series of edits.  An edit changes the tree: it adds a terminal, writes, or sets an
attribute.  What a series of edits that all succeed makes of a tree is decided by the
tree alone, but for the names of the segments; frames do not enter.
-/

namespace Backtrack

/-- A change of the tree, as opposed to a move of frames. -/
inductive Edit where
  | advance (t : Terminal)
  | write (text : String)
  | bindAttribute (key : String) (value : Value)

/-- What an edit that succeeds does to the tree.  `id` names the segment it starts, if it
starts one. -/
inductive BuildState.Edited (id : PathId) (s : BuildState) : Edit → BuildState → Prop
  | advance {t : Terminal} {s' : BuildState} {undo : Undo} :
      Change id s t s' undo → Edited id s (.advance t) { s' with last := some t }
  | write (text : String) : Edited id s (.write text) (s.write text).1
  | bindAttribute {key : String} {value : Value} {s' : BuildState} {undo : Undo} :
      s.bindAttribute key value = .ok (s', undo) → Edited id s (.bindAttribute key value) s'

theorem BuildState.Shaped.of_edited {id : PathId} {s s' : BuildState} {edit : Edit}
    (h : s.Shaped) (hedited : Edited id s edit s') : s'.Shaped := by
  cases hedited with
  | advance hchange => exact h.of_change hchange
  | write text => exact h.of_write text
  | bindAttribute hok => exact h.of_bindAttribute hok

namespace Builder

def edit (b : Builder) : Edit → Builder × Except Error Emitted
  | .advance t => b.advance t
  | .write text => b.write text
  | .bindAttribute key value => b.bindAttribute key value

def height (b : Builder) : Nat := b.state.segments.length

/-- Carry out edits, if all succeed and at least `least` segments are on the path after
each. -/
def buildAbove (least : Nat) : List Edit → Builder → Option Builder
  | [], b => some b
  | edit :: rest, b =>
    match b.edit edit with
    | (_, .error _) => none
    | (b, .ok _) => if least ≤ b.height then buildAbove least rest b else none

def build (edits : List Edit) (b : Builder) : Option Builder := b.buildAbove 0 edits

variable {b b' : Builder}

/-! ## One edit -/

theorem edited_of_edit {edit : Edit} {answer : Emitted} (h : b.edit edit = (b', .ok answer)) :
    BuildState.Edited ⟨b.nextId⟩ b.state edit b'.state := by
  cases edit with
  | advance t =>
      obtain ⟨s, undo, hchange, hstate⟩ := state_of_advance_eq_ok h
      rw [hstate]
      exact .advance hchange
  | write text =>
      cases h
      rw [state_commit]
      exact .write text
  | bindAttribute key value =>
      obtain ⟨change, hok, rfl⟩ := bindAttribute_eq_ok h
      rw [state_commit]
      exact .bindAttribute hok

theorem exists_edit {edit : Edit} {s : BuildState}
    (h : BuildState.Edited ⟨b.nextId⟩ b.state edit s) :
    ∃ b' answer, b.edit edit = (b', .ok answer) ∧ b'.state = s := by
  cases h with
  | @advance t s undo hchange =>
      refine ⟨(commit { b with nextId := b.nextIdAfter t } (s, undo)).commit (s.setLast t),
        .tag t, ?_, state_commit _ _⟩
      rw [edit, advance_eq, BuildState.apply_of_change hchange]
  | write text => exact ⟨b.commit (b.state.write text), .written text, rfl, state_commit b _⟩
  | @bindAttribute key value s undo hok =>
      refine ⟨b.commit (s, undo), .attribute key value, ?_, state_commit b _⟩
      rw [edit, bindAttribute, hok]

/-! ## Series of edits -/

theorem buildAbove_cons_iff {least : Nat} {edit : Edit} {rest : List Edit} :
    b.buildAbove least (edit :: rest) = some b' ↔
      ∃ b₁ answer, b.edit edit = (b₁, .ok answer) ∧ least ≤ b₁.height ∧
        b₁.buildAbove least rest = some b' := by
  rw [buildAbove]
  rcases b.edit edit with ⟨b₁, e | answer⟩
  · simp
  · simp only [Option.ite_none_right_eq_some, Prod.mk.injEq, Except.ok.injEq]
    constructor
    · rintro ⟨hleast, hrest⟩
      exact ⟨b₁, answer, ⟨rfl, rfl⟩, hleast, hrest⟩
    · rintro ⟨_, _, ⟨rfl, rfl⟩, hleast, hrest⟩
      exact ⟨hleast, hrest⟩

theorem buildAbove_append_iff {least : Nat} {before after : List Edit} :
    b.buildAbove least (before ++ after) = some b' ↔
      ∃ b₁, b.buildAbove least before = some b₁ ∧ b₁.buildAbove least after = some b' := by
  induction before generalizing b with
  | nil => simp [buildAbove]
  | cons edit rest ih =>
      simp only [List.cons_append, buildAbove_cons_iff, ih]
      constructor
      · rintro ⟨b₁, answer, hedit, hleast, b₂, hrest, hafter⟩
        exact ⟨b₂, ⟨b₁, answer, hedit, hleast, hrest⟩, hafter⟩
      · rintro ⟨b₂, ⟨b₁, answer, hedit, hleast, hrest⟩, hafter⟩
        exact ⟨b₁, answer, hedit, hleast, b₂, hrest, hafter⟩

theorem build_append_iff {before after : List Edit} :
    b.build (before ++ after) = some b' ↔
      ∃ b₁, b.build before = some b₁ ∧ b₁.build after = some b' :=
  buildAbove_append_iff

theorem build_cons_iff {edit : Edit} {rest : List Edit} :
    b.build (edit :: rest) = some b' ↔
      ∃ b₁ answer, b.edit edit = (b₁, .ok answer) ∧ b₁.build rest = some b' := by
  simp only [build, buildAbove_cons_iff, Nat.zero_le, true_and]

theorem build_of_buildAbove {least : Nat} {edits : List Edit}
    (h : b.buildAbove least edits = some b') : b.build edits = some b' := by
  induction edits generalizing b with
  | nil => exact h
  | cons edit rest ih =>
      obtain ⟨b₁, answer, hedit, _, hrest⟩ := buildAbove_cons_iff.mp h
      exact build_cons_iff.mpr ⟨b₁, answer, hedit, ih hrest⟩

/-- A tree that an edit can be made to goes on with the edits that follow. -/
theorem exists_build_cons {edit : Edit} {rest : List Edit} {s : BuildState} {P : Builder → Prop}
    (hedited : BuildState.Edited ⟨b.nextId⟩ b.state edit s)
    (hrest : ∀ b₁ : Builder, b₁.state = s → ∃ b', b₁.build rest = some b' ∧ P b') :
    ∃ b', b.build (edit :: rest) = some b' ∧ P b' := by
  obtain ⟨b₁, answer, hedit, hstate⟩ := exists_edit hedited
  obtain ⟨b', hbuild, hP⟩ := hrest b₁ hstate
  exact ⟨b', build_cons_iff.mpr ⟨b₁, answer, hedit, hbuild⟩, hP⟩

theorem shaped_of_buildAbove {least : Nat} {edits : List Edit} (hshaped : b.state.Shaped)
    (h : b.buildAbove least edits = some b') : b'.state.Shaped := by
  induction edits generalizing b with
  | nil =>
      cases h
      exact hshaped
  | cons edit rest ih =>
      obtain ⟨b₁, answer, hedit, _, hrest⟩ := buildAbove_cons_iff.mp h
      exact ih (hshaped.of_edited (edited_of_edit hedit)) hrest

end Builder

end Backtrack
