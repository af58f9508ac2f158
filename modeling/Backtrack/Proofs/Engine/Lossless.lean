import Backtrack.Proofs.Engine.Reach
import Backtrack.Proofs.Tree.Units

/-!
Nothing of the input is lost.  At every level of a run the units of the open
nodes, from the root inwards, followed by those of a held value, are the units
that were consumed.  Values are bound behind all text of their node, as long as
no shift reaches over text that stands behind the last reference; then the units
of a finished tree are the units of the input.
-/

namespace Backtrack

namespace BuildState

/-- The units of the nodes on the path.  The path is innermost first. -/
def pathUnits : List Segment → List Symbol
  | [] => []
  | segment :: rest => pathUnits rest ++ (segment.node.map Node.units).getD []

def heldUnits (held : Option Property) : List Symbol := (held.map Property.units).getD []

/-- A shift takes a value with no text behind it. -/
def ShiftsCleanly (t : Terminal) (s : BuildState) : Prop :=
  t = .shift → (s.segments.head?.bind (·.node)).all Node.endsInReference = true

end BuildState

theorem Node.endsInReference_addChild (n : Node) (r : Reference) :
    (n.addChild (.reference r)).endsInReference = true := by
  simp [endsInReference, addChild, Child.reference?]

namespace Engine

open BuildState

/-- The tree of a level holds what its cursor consumed. -/
structure Level.Lossless (units : List Symbol) (level : Level) : Prop where
  shaped : level.state.Shaped
  holding : level.scope.cursor.holding = level.state.held.isSome
  consumed : level.state.root = none →
    pathUnits level.state.segments ++ heldUnits level.state.held =
      units.take level.scope.cursor.offset
  /-- What is bound inside the nodes on the path comes after all they have. -/
  ends : ∀ segment ∈ level.state.segments.tail, ∀ n, segment.node = some n →
    n.endsInReference = true
  closed : ∀ n, level.state.root = some n →
    n.units = units ∧ level.state.held = none ∧ level.scope.regions.balanced = []

namespace Level

variable {units : List Symbol}

theorem lossless_start (regions : Regions) : Lossless units ⟨{ regions }, {}⟩ where
  shaped := shaped_empty
  holding := rfl
  consumed := fun _ => by simp [pathUnits, heldUnits]
  ends := by simp
  closed := by simp

/-- A value bound to the reference that waits goes to the end of the path. -/
theorem Lossless.pathUnits_bind {scope : Scope} {s : BuildState} {segment parent : Segment}
    {rest : List Segment} {m m' : Node} {r : Reference} {value : Property} {how : Bound}
    (h : Lossless units ⟨scope, s⟩) (hsegments : s.segments = segment :: parent :: rest)
    (hreference : segment.reference = some r) (hparent : parent.node = some m)
    (hvalue : value.Proper) (hbind : m.bind r value = .ok (m', how)) :
    pathUnits ({ parent with node := some m', lastBound := some r } :: rest) =
      pathUnits (parent :: rest) ++ value.units := by
  obtain ⟨_, _, n, bound, hcons, hnode, hawaiting, _⟩ := h.shaped.parent hsegments hreference
  cases hcons
  rw [hparent, Option.some.injEq] at hnode
  subst hnode
  obtain ⟨properties, how', hbind', hfilled⟩ := hawaiting.bind hvalue
  rw [hbind] at hbind'
  cases hbind'
  have hend : m.endsInReference = true := h.ends parent (by simp [hsegments]) m hparent
  have hunits := hfilled.units_eq_append hawaiting rfl hend
  simp only [pathUnits, hparent, Option.map_some, Option.getD_some, hunits, List.append_assoc]

theorem Lossless.consumed_of_cons {scope : Scope} {s : BuildState} {segment : Segment}
    {rest : List Segment} (h : Lossless units ⟨scope, s⟩) (hsegments : s.segments = segment :: rest) :
    pathUnits (segment :: rest) ++ heldUnits s.held = units.take scope.cursor.offset := by
  have hconsumed := h.consumed (h.shaped.root_eq_none hsegments)
  rwa [hsegments] at hconsumed

theorem Lossless.ends_of_cons {scope : Scope} {s : BuildState} {segment : Segment}
    {rest : List Segment} (h : Lossless units ⟨scope, s⟩) (hsegments : s.segments = segment :: rest) :
    ∀ segment ∈ rest, ∀ n, segment.node = some n → n.endsInReference = true := by
  have hends := h.ends
  rwa [hsegments, List.tail_cons] at hends

theorem Lossless.of_path {scope scope' : Scope} {s s' : BuildState} {segment : Segment}
    {rest : List Segment} (h : Lossless units ⟨scope, s⟩)
    (hsegments : s.segments = segment :: rest) (hshaped : s'.Shaped) (hroot : s'.root = s.root)
    (hholding : scope'.cursor.holding = s'.held.isSome)
    (hconsumed : pathUnits s'.segments ++ heldUnits s'.held = units.take scope'.cursor.offset)
    (hends : ∀ segment ∈ s'.segments.tail, ∀ n, segment.node = some n →
      n.endsInReference = true) : Lossless units ⟨scope', s'⟩ where
  shaped := hshaped
  holding := hholding
  consumed := fun _ => hconsumed
  ends := hends
  closed := by
    intro n hn
    have hn' : s.root = some n := hroot ▸ hn
    rw [h.shaped.root_eq_none hsegments] at hn'
    cases hn'

theorem pathUnits_cons_of_some {segment : Segment} {rest : List Segment} {n : Node}
    (h : segment.node = some n) : pathUnits (segment :: rest) = pathUnits rest ++ n.units := by
  rw [pathUnits, h]
  rfl

theorem pathUnits_cons_of_none {segment : Segment} {rest : List Segment}
    (h : segment.node = none) : pathUnits (segment :: rest) = pathUnits rest := by
  rw [pathUnits, h]
  exact List.append_nil _

theorem take_append_ofText {text : String} {offset : Nat}
    (h : Symbol.ofText text <+: units.drop offset) :
    units.take (offset + text.length) = units.take offset ++ Symbol.ofText text := by
  have hlength : (Symbol.ofText text).length = text.length := by
    rw [Symbol.ofText, List.length_map, String.length_toList]
  rw [List.take_add, ← hlength, List.prefix_iff_eq_take.mp h]
  simp

theorem Lossless.of_bind {scope scope' : Scope} {s s' : BuildState} {segment parent : Segment}
    {rest : List Segment} {m m' : Node} {r : Reference} {value : Property} {how : Bound}
    (h : Lossless units ⟨scope, s⟩) (hsegments : s.segments = segment :: parent :: rest)
    (hreference : segment.reference = some r) (hparent : parent.node = some m)
    (hvalue : value.Proper) (hbind : m.bind r value = .ok (m', how))
    (hpath : s'.segments = { parent with node := some m', lastBound := some r } :: rest)
    (hroot : s'.root = s.root) (hshaped : s'.Shaped)
    (hholding : scope'.cursor.holding = s'.held.isSome)
    (hconsumed : pathUnits (parent :: rest) ++ value.units ++ heldUnits s'.held =
      units.take scope'.cursor.offset) : Lossless units ⟨scope', s'⟩ := by
  have hbound := h.pathUnits_bind hsegments hreference hparent hvalue hbind
  have hends := h.ends_of_cons hsegments
  refine h.of_path hsegments hshaped hroot hholding ?_ ?_
  · rw [hpath, hbound]
    exact hconsumed
  · rw [hpath]
    exact fun segment hsegment => hends segment (List.mem_cons_of_mem _ hsegment)

theorem Lossless.of_pending {scope scope' : Scope} {s s' : BuildState} {segment pending : Segment}
    {rest : List Segment} {n : Node} {bound : Option Reference} (h : Lossless units ⟨scope, s⟩)
    (hsegments : s.segments = segment :: rest)
    (hpath : s'.segments =
      pending :: { segment with node := some n, lastBound := bound } :: rest)
    (hpending : pending.node = none) (hend : n.endsInReference = true)
    (hroot : s'.root = s.root) (hshaped : s'.Shaped)
    (hholding : scope'.cursor.holding = s'.held.isSome)
    (hconsumed : pathUnits rest ++ n.units ++ heldUnits s'.held =
      units.take scope'.cursor.offset) : Lossless units ⟨scope', s'⟩ := by
  refine h.of_path hsegments hshaped hroot hholding ?_ ?_
  · rw [hpath, pathUnits_cons_of_none hpending, pathUnits_cons_of_some rfl]
    exact hconsumed
  · rw [hpath, List.tail_cons]
    intro top htop m hm
    rcases List.mem_cons.mp htop with rfl | htop
    · cases hm
      exact hend
    · exact h.ends_of_cons hsegments top htop m hm

section Advance

/-! ### One terminal at a time -/

variable {id : PathId} {scope scope' : Scope} {s s' : BuildState} {undo : Undo}

theorem Lossless.advance_openNode {tag : OpenTag} (h : Lossless units ⟨scope, s⟩)
    (hchange : Change id s (.openNode tag) s' undo)
    (hscope : scope.Advances units s { s' with last := some (.openNode tag) } (.openNode tag)
      scope') :
    Lossless units ⟨scope', { s' with last := some (.openNode tag) }⟩ := by
  have hshaped := h.shaped.of_change hchange
  have hunits : Node.units { tag } = [] := rfl
  cases hscope
  cases hchange with
  | openRoot _ hroot hsegments =>
      have hconsumed := h.consumed hroot
      rw [hsegments] at hconsumed
      refine ⟨hshaped, h.holding, ?_, by simp, ?_⟩
      · intro _
        simpa [pathUnits, hunits] using hconsumed
      · intro n hn
        rw [hroot] at hn
        cases hn
  | openPending _ hsegments hnode =>
      have hconsumed := h.consumed_of_cons hsegments
      rw [pathUnits_cons_of_none hnode] at hconsumed
      refine h.of_path hsegments hshaped rfl h.holding ?_ (h.ends_of_cons hsegments)
      rw [pathUnits_cons_of_some rfl, hunits, List.append_nil]
      exact hconsumed

/-- The root closes only over an input that is consumed. -/
theorem Lossless.advance_close (h : Lossless units ⟨scope, s⟩)
    (hchange : Change id s .close s' undo)
    (hscope : scope.Advances units s { s' with last := some .close } .close scope') :
    Lossless units ⟨scope', { s' with last := some .close }⟩ := by
  have hshaped := h.shaped.of_change hchange
  cases hchange with
  | closeRoot hsegments hnode =>
      have hconsumed := h.consumed_of_cons hsegments
      rw [pathUnits_cons_of_some hnode] at hconsumed
      cases hscope with
      | close hne => exact absurd rfl hne
      | closeRoot _ hholding hoffset hbalanced =>
          have hheld : s.held = none := by simpa [hholding] using h.holding
          refine ⟨hshaped, h.holding, fun hroot => (nomatch hroot), by simp, ?_⟩
          intro m hm
          cases hm
          refine ⟨?_, hheld, hbalanced⟩
          simpa [pathUnits, heldUnits, hheld, List.take_of_length_le hoffset] using hconsumed
  | close hsegments hnode hreference hparent hbind =>
      have hconsumed := h.consumed_of_cons hsegments
      rw [pathUnits_cons_of_some hnode] at hconsumed
      obtain ⟨bound, hfilled, _⟩ := h.shaped.filled hsegments hnode
      cases hscope with
      | closeRoot hnil => cases hnil
      | close _ _ =>
          exact h.of_bind hsegments hreference hparent hfilled.proper_ofNode hbind rfl rfl hshaped
            h.holding hconsumed

/-- A literal is the text that the cursor moved over, or empty. -/
theorem Lossless.advance_literal {text : String} (h : Lossless units ⟨scope, s⟩)
    (hchange : Change id s (.literal text) s' undo)
    (hscope : scope.Advances units s { s' with last := some (.literal text) } (.literal text)
      scope') :
    Lossless units ⟨scope', { s' with last := some (.literal text) }⟩ := by
  have hshaped := h.shaped.of_change hchange
  cases hchange with
  | literal _ hsegments hnode =>
      have hconsumed := h.consumed_of_cons hsegments
      obtain ⟨bound, hfilled, _⟩ := h.shaped.filled hsegments hnode
      cases hscope with
      | literal htext hempty =>
          refine h.of_path hsegments hshaped rfl h.holding ?_ (h.ends_of_cons hsegments)
          rw [pathUnits_cons_of_some rfl, hfilled.units_addLiteral, ← List.append_assoc,
            ← pathUnits_cons_of_some hnode]
          by_cases hholding : scope.cursor.holding = true
          · rw [hempty hholding]
            simpa [Symbol.ofText] using hconsumed
          · have hheld : s.held = none := by simpa [hholding] using h.holding
            rw [take_append_ofText htext, ← hconsumed]
            simp [heldUnits, hheld]

theorem Lossless.advance_reference {r : Reference} (h : Lossless units ⟨scope, s⟩)
    (hchange : Change id s (.reference r) s' undo)
    (hscope : scope.Advances units s { s' with last := some (.reference r) } (.reference r)
      scope') :
    Lossless units ⟨scope', { s' with last := some (.reference r) }⟩ := by
  have hshaped := h.shaped.of_change hchange
  cases hscope
  cases hchange with
  | reference _ hsegments hnode hfree =>
      have hconsumed := h.consumed_of_cons hsegments
      obtain ⟨bound, hfilled, _⟩ := h.shaped.filled hsegments hnode
      refine h.of_pending hsegments rfl rfl (Node.endsInReference_addChild _ r) rfl hshaped
        h.holding ?_
      rw [hfilled.units_addReference (hfilled.addReference hfree), ← pathUnits_cons_of_some hnode]
      exact hconsumed

theorem Lossless.advance_null (h : Lossless units ⟨scope, s⟩)
    (hchange : Change id s .null s' undo)
    (hscope : scope.Advances units s { s' with last := some .null } .null scope') :
    Lossless units ⟨scope', { s' with last := some .null }⟩ := by
  have hshaped := h.shaped.of_change hchange
  have hunits : Property.null.units = [] := rfl
  cases hscope
  cases hchange with
  | null hsegments hnode hreference hparent hbind =>
      have hconsumed := h.consumed_of_cons hsegments
      rw [pathUnits_cons_of_none hnode] at hconsumed
      refine h.of_bind hsegments hreference hparent .null hbind rfl rfl hshaped h.holding ?_
      rw [hunits, List.append_nil]
      exact hconsumed

/-- A gap is one of the input, or the value that is held. -/
theorem Lossless.advance_gap (h : Lossless units ⟨scope, s⟩)
    (hchange : Change id s .gap s' undo)
    (hscope : scope.Advances units s { s' with last := some .gap } .gap scope') :
    Lossless units ⟨scope', { s' with last := some .gap }⟩ := by
  have hshaped := h.shaped.of_change hchange
  cases hchange with
  | gap hsegments hnode hreference hparent hbind =>
      have hconsumed := h.consumed_of_cons hsegments
      rw [pathUnits_cons_of_none hnode] at hconsumed
      cases hscope with
      | gap hholding hgap =>
          have hheld : s.held = none := by simpa [hholding] using h.holding
          refine h.of_bind hsegments hreference hparent h.shaped.proper_held hbind rfl rfl hshaped
            hholding ?_
          rw [List.take_add_one, hgap, ← hconsumed]
          simp [heldUnits, hheld, Property.units, Property.outline, Outline.units]
      | unshift hholding =>
          obtain ⟨value, hheld⟩ : ∃ value, s.held = some value :=
            Option.isSome_iff_exists.mp (h.holding.symm.trans hholding)
          refine h.of_bind hsegments hreference hparent h.shaped.proper_held hbind rfl rfl hshaped
            rfl ?_
          rw [← hconsumed]
          simp [heldUnits, hheld]

theorem Lossless.advance_shift (h : Lossless units ⟨scope, s⟩) (hclean : s.ShiftsCleanly .shift)
    (hchange : Change id s .shift s' undo)
    (hscope : scope.Advances units s { s' with last := some .shift } .shift scope') :
    Lossless units ⟨scope', { s' with last := some .shift }⟩ := by
  have hshaped := h.shaped.of_change hchange
  cases hscope
  cases hchange with
  | @shift segment rest n n' r value how hheld hsegments hnode hlast hunbind =>
      have hconsumed := h.consumed_of_cons hsegments
      rw [pathUnits_cons_of_some hnode] at hconsumed
      have hend : n.endsInReference = true := by
        have hall := hclean rfl
        rw [hsegments, List.head?_cons, Option.bind_some, hnode] at hall
        exact hall
      obtain ⟨value', properties, how', bound, hunbind', _, hfilled, hawaiting⟩ :=
        h.shaped.unbind_lastBound hsegments hnode hlast
      rw [hunbind] at hunbind'
      cases hunbind'
      have hunits := hfilled.units_eq_append hawaiting rfl hend
      -- Taking a value out leaves the children, so the node still ends in its reference.
      refine h.of_pending hsegments rfl rfl hend rfl hshaped rfl ?_
      rw [← hconsumed, hunits]
      simp [heldUnits, hheld]

theorem Lossless.advance {t : Terminal} (h : Lossless units ⟨scope, s⟩) (hclean : s.ShiftsCleanly t)
    (hchange : Change id s t s' undo)
    (hscope : scope.Advances units s { s' with last := some t } t scope') :
    Lossless units ⟨scope', { s' with last := some t }⟩ := by
  cases t with
  | doctype tag =>
      have hshaped := h.shaped.of_change hchange
      cases hscope
      cases hchange
      exact ⟨hshaped, h.holding, h.consumed, h.ends, h.closed⟩
  | openNode tag => exact h.advance_openNode hchange hscope
  | close => exact h.advance_close hchange hscope
  | literal text => exact h.advance_literal hchange hscope
  | reference r => exact h.advance_reference hchange hscope
  | null => exact h.advance_null hchange hscope
  | gap => exact h.advance_gap hchange hscope
  | shift => exact h.advance_shift hclean hchange hscope

end Advance

theorem Lossless.write {scope : Scope} {s : BuildState} (h : Lossless units ⟨scope, s⟩)
    (text : String) : Lossless units ⟨scope, (s.write text).1⟩ :=
  ⟨h.shaped.of_write text, h.holding, h.consumed, h.ends, h.closed⟩

theorem Lossless.bindAttribute {key : String} {value : Value} {scope : Scope}
    {s s' : BuildState} {undo : Undo} (h : Lossless units ⟨scope, s⟩)
    (hok : s.bindAttribute key value = .ok (s', undo)) : Lossless units ⟨scope, s'⟩ := by
  have hshaped := h.shaped.of_bindAttribute hok
  obtain ⟨segment, n, rest, hsegments, hnode, rfl, rfl⟩ := bindAttribute_eq_ok hok
  have hconsumed := h.consumed_of_cons hsegments
  rw [pathUnits_cons_of_some hnode] at hconsumed
  have hends := h.ends_of_cons hsegments
  refine h.of_path hsegments hshaped rfl h.holding ?_ hends
  rw [pathUnits_cons_of_some rfl]
  exact hconsumed

theorem Lossless.setLanguage {scope : Scope} {s : BuildState} (h : Lossless units ⟨scope, s⟩)
    (language : Option String) : Lossless units ⟨{ scope with language }, s⟩ :=
  ⟨h.shaped, h.holding, h.consumed, h.ends, h.closed⟩

/-- A step loses nothing on any level. -/
theorem Step.lossless {i : Instruction} {levels levels' : List Level}
    (h : Step units i levels levels')
    (hclean : ∀ level below, i = .advance .shift → levels = level :: below →
      level.state.ShiftsCleanly .shift)
    (hlevels : ∀ level ∈ levels, level.Lossless units) :
    ∀ level ∈ levels', level.Lossless units := by
  refine h.forall_mem (Lossless units) (fun t s => s.ShiftsCleanly t) ?_ ?_ ?_ ?_ ?_ ?_ hlevels
  · intro t id scope scope' s s' undo hlevel hallowed hchange hscope
    exact hlevel.advance hallowed hchange hscope
  · intro s
    exact ⟨fun h => (nomatch h), fun r h => (nomatch h)⟩
  · intro scope s text hlevel
    exact hlevel.write text
  · intro key value scope s s' undo _ hlevel hok
    exact hlevel.bindAttribute hok
  · intro scope s hlevel
    exact hlevel.setLanguage none
  · intro t level below hi hcons ht
    subst ht
    exact hclean level below hi hcons rfl

end Level

/-! ## Runs -/

def shiftsOf (traced : List (Engine × Instruction)) : List Engine :=
  traced.filterMap fun
    | (e, .advance .shift) => some e
    | _ => none

theorem lossless_of_traceFrom {config : Config} {strategy : Strategy Unit} {e e' : Engine}
    {b b' : Buffer} {traced : List (Engine × Instruction)} {levels : List Level}
    (hruns : (traceFrom config strategy e).Runs b (traced, .ok e') b') (hstands : e.Stands levels)
    (hlevels : ∀ level ∈ levels, level.Lossless b.content)
    (hclean : ∀ e ∈ shiftsOf traced, e.builder.node?.all Node.endsInReference = true) :
    ∃ levels', e'.Stands levels' ∧ ∀ level ∈ levels', level.Lossless b.content := by
  induction strategy generalizing e b traced levels with
  | done a =>
      obtain ⟨hpair, _⟩ := Job.runs_done_iff.mp hruns
      cases hpair
      exact ⟨levels, hstands, hlevels⟩
  | pause rest ih =>
      cases hruns with
      | pause hrest => exact ih hrest hstands hlevels hclean
  | ask i rest ih =>
      rw [traceFrom] at hruns
      obtain ⟨result, b₁, hstep, hrest⟩ := Job.runs_bind_iff.mp hruns
      cases result with
      | error error => cases (Job.runs_done_iff.mp hrest).1
      | ok pair =>
          obtain ⟨answer, e₁⟩ := pair
          have hyields : Yields (step config e i : Exec Answer _) b (answer, e₁) b₁ := hstep
          obtain ⟨levels₁, hlevel, hstands₁⟩ := hstands.of_step hyields
          cases hrest with
          | emit hrest =>
              obtain ⟨⟨traced₁, ended⟩, b₂, htail, hdone⟩ := Job.runs_bind_iff.mp hrest
              obtain ⟨hpair, rfl⟩ := Job.runs_done_iff.mp hdone
              cases hpair
              have hcontent := hyields.content_eq
              rw [← hcontent]
              refine ih answer htail hstands₁ ?_ ?_
              · rw [hcontent]
                refine hlevel.lossless ?_ hlevels
                rintro level below rfl rfl _
                have hstate : level.state = e.builder.state :=
                  Option.some.inj (hstands.state)
                rw [hstate]
                exact hclean e (by simp [shiftsOf])
              · intro e₂ he₂
                apply hclean e₂
                unfold shiftsOf at he₂ ⊢
                rw [List.filterMap_cons]
                split
                · exact he₂
                · exact List.mem_cons_of_mem _ he₂

def shifts (config : Config) (strategy : Strategy Unit) (polls : Nat) (input : Buffer) :
    List Engine :=
  (((trace config strategy).drive polls input).result.map fun traced => shiftsOf traced.1).getD []

/-- The units of a finished document are the units of the input, if no shift
reached over text.  Nothing is held and no construct waits for its closer. -/
theorem units_root_of_run {config : Config} {strategy : Strategy Unit} {polls : Nat}
    {input : Buffer} {builder : Builder} {document : Document}
    (hrun : ((run config strategy).drive polls input).result = some (.ok builder))
    (hfinish : builder.finish = .ok document)
    (hclean : ∀ e ∈ shifts config strategy polls input,
      e.builder.node?.all Node.endsInReference = true) :
    document.root.units = input.content ∧
      document.root.text.toList = input.content.filterMap Symbol.char? ∧
      builder.state.held = none ∧
      ∃ traced e, ((trace config strategy).drive polls input).result = some (traced, .ok e) ∧
        e.builder = builder ∧ e.scope.regions.balanced = [] := by
  -- The run ends as its trace does.
  rw [result_run, Option.map_eq_some_iff] at hrun
  obtain ⟨⟨traced, ended⟩, htrace, hended⟩ := hrun
  cases ended with
  | error error => cases hended
  | ok e =>
      cases hended
      rw [shifts, htrace] at hclean
      obtain ⟨b', hruns⟩ := Job.runs_of_drive htrace
      obtain ⟨b₁, hawait, hruns⟩ := Job.runs_fill_iff.mp hruns
      have hstart : ∀ level ∈ [Level.mk { regions := .ofName config.initialSpan } {}],
          level.Lossless b₁.content := by
        rw [List.forall_mem_singleton]
        exact Level.lossless_start _
      obtain ⟨levels, hstands, hlevels⟩ :=
        lossless_of_traceFrom hruns (stands_start config) hstart hclean
      obtain ⟨below, rfl⟩ := hstands.exists_cons
      have htop := hlevels _ List.mem_cons_self
      obtain ⟨root, hroot, rfl⟩ : ∃ root, e.builder.state.root = some root ∧
          document = { doctype := e.builder.state.doctype, root,
                       written := e.builder.state.written } := by
        unfold Builder.finish at hfinish
        split at hfinish
        · split at hfinish
          · cases hfinish
          · next root hroot =>
              cases hfinish
              exact ⟨root, hroot, rfl⟩
        · cases hfinish
      obtain ⟨hunits, hheld, hbalanced⟩ := htop.closed root hroot
      rw [hawait.content_eq] at hunits
      refine ⟨hunits, ?_, hheld, traced, e, htrace, rfl, hbalanced⟩
      rw [← hunits]
      exact root.toList_text

def sumOfTwo : Strategy Unit :=
  .ofInstructions
    [.advance (.openNode (.typed "Root")), .advance (.reference { name := "value" }),
      .advance (.openNode (.typed "Number")), .advance (.literal "1"), .advance .close,
      .branch, .advance .shift, .advance (.openNode (.typed "Sum")),
      .advance (.reference (.array "terms")), .advance .gap, .advance (.literal "+"),
      .advance (.reference (.array "terms")), .advance (.openNode (.typed "Number")),
      .advance (.literal "2"), .advance .close, .advance .close, .accept, .advance .close]

theorem units_root_of_run_sumOfTwo : ∃ builder document,
    ((run {} sumOfTwo).drive 1 (.ofText "1+2")).result = some (.ok builder) ∧
      builder.finish = .ok document ∧ (shifts {} sumOfTwo 1 (.ofText "1+2")).length = 1 ∧
      document.root.units = [.char '1', .char '+', .char '2'] := by
  have hfinished : ((run {} sumOfTwo).drive 1 (.ofText "1+2")).result.map
      (fun built => (built.bind Builder.finish).isOk) = some true := by decide +kernel
  have hshifts : (shifts {} sumOfTwo 1 (.ofText "1+2")).map
      (fun e => e.builder.node?.all Node.endsInReference) = [true] := by decide +kernel
  obtain ⟨built, hrun, hok⟩ := Option.map_eq_some_iff.mp hfinished
  cases built with
  | error error => cases hok
  | ok builder =>
      cases hfinish : builder.finish with
      | error error => simp [Except.bind, hfinish, Except.isOk, Except.toBool] at hok
      | ok document =>
          have hclean : ∀ e ∈ shifts {} sumOfTwo 1 (.ofText "1+2"),
              e.builder.node?.all Node.endsInReference = true := by
            intro e he
            have hmem := List.mem_map_of_mem
              (f := fun e : Engine => e.builder.node?.all Node.endsInReference) he
            rw [hshifts] at hmem
            simpa using hmem
          have hunits := (units_root_of_run hrun hfinish hclean).1
          exact ⟨builder, document, hrun, hfinish, by simpa using congrArg List.length hshifts,
            hunits⟩

end Engine

end Backtrack
