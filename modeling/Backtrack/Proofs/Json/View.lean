import Backtrack.Json.View
import Backtrack.Proofs.Json.Tree

/-!
What is stored can be told from its stored form.  Terminals, documents and views are
read back as they were, in whatever order the members of their objects come, so no two
of them have the same form.  Settings are read back but for the name of the outermost
region, which is not stored.
-/

namespace Backtrack

open Codec

/-! ## Views -/

structure StateView.Fits (v : StateView) : Prop where
  id : v.id.index < UInt64.size
  depth : v.depth < UInt64.size
  parent : ∀ id ∈ v.parent, id.index < UInt64.size
  balanced : v.balanced < UInt64.size
  offset : v.offset < UInt64.size
  pathDepth : ∀ n ∈ v.pathDepth, n < UInt64.size

theorem readsBack_frameId {id : FrameId} (h : id.index < UInt64.size) : ReadsBack id := by
  intro j hj
  show (decode? j : Option Nat).map FrameId.mk = some id
  rw [readsBack_nat h j hj, Option.map_some]

theorem readsBack_status (status : Status) : ReadsBack status := by
  intro j h
  cases status <;>
    · rw [Json.Alike.eq_str h]
      rfl

theorem readsBack_stateView {v : StateView} (hfits : v.Fits) : ReadsBack v := by
  intro j h
  obtain ⟨values, hfields, hvalues⟩ :=
    Json.Alike.exists_fields ["id", "status", "depth", "parent", "lexical_context", "spans",
      "balanced", "offset", "holding", "done", "language", "node_type", "path_depth",
      "last_result"] h rfl (by decide)
  obtain _ | ⟨hid, _ | ⟨hstatus, _ | ⟨hdepth, _ | ⟨hparent, _ | ⟨hcontext, _ | ⟨hspans,
    _ | ⟨hbalanced, _ | ⟨hoffset, _ | ⟨hholding, _ | ⟨hdone, _ | ⟨hlanguage, _ | ⟨htype,
    _ | ⟨hpath, _ | ⟨hlast, _ | _⟩⟩⟩⟩⟩⟩⟩⟩⟩⟩⟩⟩⟩⟩ := hvalues
  simp only [decode?, hfields, List.map_cons, List.map_nil]
  rw [(readsBack_frameId hfits.id).field? hid, (readsBack_status _).field? hstatus,
    (readsBack_nat hfits.depth).field? hdepth,
    (ReadsBack.option (fun id hid => readsBack_frameId (hfits.parent id hid)) rfl).optionalField?
      hparent,
    (readsBack_string _).field? hcontext,
    (ReadsBack.list fun name _ => readsBack_string name).field? hspans,
    (readsBack_nat hfits.balanced).field? hbalanced, (readsBack_nat hfits.offset).field? hoffset,
    (readsBack_bool _).field? hholding, (readsBack_bool _).field? hdone,
    (readsBack_optionalString _).optionalField? hlanguage,
    (readsBack_optionalString _).optionalField? htype,
    (ReadsBack.option (fun n hn => readsBack_nat (hfits.pathDepth n hn)) rfl).optionalField? hpath,
    (ReadsBack.option (fun t _ => readsBack_terminal t) rfl).optionalField? hlast]
  rfl

/-! ## Settings -/

structure Config.Fits (c : Config) : Prop where
  maxBranchDepth : c.maxBranchDepth < UInt64.size
  maxInstructions : c.maxInstructions < UInt64.size
  matchWindow : c.matchWindow < UInt64.size

/-- The settings that are stored, with the default name of the outermost region. -/
def Config.stored (c : Config) : Config := { c with initialSpan := ({} : Config).initialSpan }

theorem Config.decode?_of_alike {c : Config} (hfits : c.Fits) {j : Json}
    (h : (encode c).Alike j) : decode? j = some c.stored := by
  obtain ⟨values, hfields, hvalues⟩ :=
    Json.Alike.exists_fields ["max_branch_depth", "max_instructions", "match_window"] h rfl
      (by decide)
  obtain _ | ⟨hdepth, _ | ⟨hinstructions, _ | ⟨hwindow, _ | _⟩⟩⟩ := hvalues
  simp only [decode?, hfields, List.map_cons, List.map_nil]
  rw [(readsBack_nat hfits.maxBranchDepth).field? hdepth,
    (readsBack_nat hfits.maxInstructions).field? hinstructions,
    (readsBack_nat hfits.matchWindow).field? hwindow]
  rfl

/-! ## What is stored can be told -/

namespace Codec

/-- Terminals, documents and views whose numbers have 64 bits are read back from what
they are stored as, whatever the order of the members of an object, and no two of them
that differ are stored alike.  Settings are read back with the default name for the
outermost region. -/
theorem stored_forms_faithful :
    (∀ t : Terminal, ReadsBack t) ∧ (∀ d : Document, ReadsBack d) ∧
      (∀ v : StateView, v.Fits → ReadsBack v) ∧
      (∀ t t' : Terminal, (encode t).Alike (encode t') → t = t') ∧
      (∀ d d' : Document, (encode d).Alike (encode d') → d = d') ∧
      (∀ v v' : StateView, v.Fits → v'.Fits → (encode v).Alike (encode v') → v = v') ∧
      ∀ c : Config, c.Fits → ∀ j : Json, (encode c).Alike j → decode? j = some c.stored := by
  refine ⟨readsBack_terminal, readsBack_document, fun _ => readsBack_stateView, ?_, ?_, ?_,
    fun _ hfits _ => Config.decode?_of_alike hfits⟩
  · intro t t' h
    exact (readsBack_terminal t).eq_of_alike (readsBack_terminal t') h
  · intro d d' h
    exact (readsBack_document d).eq_of_alike (readsBack_document d') h
  · intro v v' hv hv' h
    exact (readsBack_stateView hv).eq_of_alike (readsBack_stateView hv') h

def viewAfter (t : Terminal) : StateView where
  id := ⟨2⟩
  status := .active
  depth := 1
  parent := some ⟨1⟩
  lexicalContext := "Bare"
  spans := ["Bare"]
  balanced := 0
  offset := 4
  holding := false
  done := false
  language := none
  nodeType := none
  pathDepth := some 1
  lastResult := some t

theorem viewAfter_fits (t : Terminal) : (viewAfter t).Fits := by
  constructor <;> simp [viewAfter, UInt64.size]

/-- A closing tag and the text that spells it are stored differently. -/
theorem stored_forms_faithful_close :
    (viewAfter .close).Fits ∧ (viewAfter (.literal "Close")).Fits ∧
      ¬(encode (viewAfter .close)).Alike (encode (viewAfter (.literal "Close"))) ∧
      decode? (.obj [("match_window", encode 1024), ("max_instructions", encode 7),
        ("max_branch_depth", encode 128)]) = some ({ maxInstructions := 7 } : Config) := by
  have hfits : ({ maxInstructions := 7, initialSpan := "Quoted" } : Config).Fits := by
    constructor <;> decide
  obtain ⟨-, -, -, -, -, hdistinct, hsettings⟩ := stored_forms_faithful
  refine ⟨viewAfter_fits _, viewAfter_fits _, fun halike => ?_, ?_⟩
  · have heq := hdistinct _ _ (viewAfter_fits _) (viewAfter_fits _) halike
    simp [viewAfter] at heq
  · exact hsettings _ hfits _ (.obj (Json.AlikeMembers.refl _) (List.reverse_perm _).symm)

end Codec

end Backtrack
