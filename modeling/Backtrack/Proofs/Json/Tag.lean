import Backtrack.Json.Tag
import Backtrack.Proofs.Json.Alike
import Backtrack.Proofs.Tree.Inverse
import Mathlib.Data.List.Perm.Basic

/-!
Tags and terminals are read back from their stored form.
-/

namespace Backtrack

open Codec

theorem readsBack_value (value : Value) : ReadsBack value := by
  intro j h
  cases value with
  | bool b =>
      obtain ⟨body, rfl, hbody⟩ := Json.Alike.exists_body h
      cases hbody
      rfl
  | text s =>
      obtain ⟨body, rfl, hbody⟩ := Json.Alike.exists_body h
      cases hbody
      rfl

/-! ## Attributes -/

namespace Attributes

theorem perm_insertEntry {key : String} (value : Value) {entries : List (String × Value)}
    (h : key ∉ entries.map (·.1)) :
    (insertEntry key value entries).Perm ((key, value) :: entries) := by
  induction entries with
  | nil => exact List.Perm.refl _
  | cons head rest ih =>
      obtain ⟨k, v⟩ := head
      rw [List.map_cons, List.mem_cons, not_or] at h
      unfold insertEntry
      by_cases hlt : key < k
      · rw [if_pos hlt]
      · rw [if_neg hlt, if_neg h.1]
        exact ((ih h.2).cons _).trans (List.Perm.swap _ _ _)

theorem perm_foldl_insert {attributes : Attributes} {entries : List (String × Value)}
    (h : ((attributes.entries ++ entries).map (·.1)).Nodup) :
    (entries.foldl (fun acc e => acc.insert e.1 e.2) attributes).entries.Perm
      (attributes.entries ++ entries) := by
  induction entries generalizing attributes with
  | nil =>
      rw [List.append_nil]
      exact List.Perm.refl _
  | cons entry rest ih =>
      have hmiddle : (attributes.entries ++ entry :: rest).Perm
          (entry :: (attributes.entries ++ rest)) := List.perm_middle
      have hnodup := (hmiddle.map (·.1)).nodup_iff.mp h
      rw [List.map_cons, List.nodup_cons, List.map_append, List.mem_append, not_or] at hnodup
      have hinsert : (attributes.insert entry.1 entry.2).entries.Perm
          (entry :: attributes.entries) := perm_insertEntry entry.2 hnodup.1.1
      have hperm := (hinsert.append_right rest).trans hmiddle.symm
      exact (ih ((hperm.map (·.1)).nodup_iff.mpr h)).trans hperm

theorem ofList_of_perm {attributes : Attributes} {entries : List (String × Value)}
    (h : entries.Perm attributes.entries) : ofList entries = attributes := by
  have hdistinct : (attributes.entries.map (·.1)).Nodup := by
    have hne : ∀ a b : String × Value, a.1 < b.1 → a.1 ≠ b.1 :=
      fun a b hlt heq => String.lt_irrefl b.1 (heq ▸ hlt)
    rw [List.Nodup, List.pairwise_map]
    exact attributes.sorted.imp (hne _ _)
  have hentries : ((∅ : Attributes).entries ++ entries).map (·.1) |>.Nodup :=
    (h.map (·.1)).nodup_iff.mpr hdistinct
  have hperm : (ofList entries).entries.Perm attributes.entries :=
    (perm_foldl_insert hentries).trans h
  apply eq_of_entries_eq
  refine hperm.eq_of_pairwise (fun a b _ _ hab hba => ?_) (ofList entries).sorted attributes.sorted
  exact absurd (String.lt_trans hab hba) (String.lt_irrefl _)

end Attributes

theorem forall₂_of_alikeMembers {entries : List (String × Value)}
    {members : List (String × Json)}
    (h : Json.AlikeMembers (entries.map fun e => (e.1, encode e.2)) members) :
    List.Forall₂ (fun m e => (decode? m.2).map (m.1, ·) = some e) members entries := by
  induction entries generalizing members with
  | nil =>
      cases h
      exact .nil
  | cons entry rest ih =>
      cases h with
      | cons hvalue hrest =>
          refine .cons ?_ (ih hrest)
          rw [readsBack_value _ _ hvalue]
          rfl

theorem readsBack_attributes (attributes : Attributes) : ReadsBack attributes := by
  intro j h
  cases h with
  | @obj _ ordered members hordered hperm =>
      obtain ⟨entries, hentries, hsame⟩ :=
        List.perm_comp_forall₂ hperm.symm (forall₂_of_alikeMembers hordered)
      show (members.mapM fun m => (decode? m.2).map (m.1, ·)).bind
        (fun entries => some (Attributes.ofList entries)) = some attributes
      rw [mapM_of_forall₂ hentries, Option.bind_some, Attributes.ofList_of_perm hsame]

/-! ## Records -/

theorem readsBack_optionalString (o : Option String) : ReadsBack o :=
  ReadsBack.option (fun s _ => readsBack_string s) rfl

theorem readsBack_flags (flags : NodeFlags) : ReadsBack flags := by
  intro j h
  obtain ⟨values, hfields, hvalues⟩ :=
    Json.Alike.exists_fields ["token", "trivia", "escape"] h rfl (by decide)
  obtain _ | ⟨htoken, _ | ⟨htrivia, _ | ⟨hescape, _ | _⟩⟩⟩ := hvalues
  simp only [decode?, hfields, List.map_cons, List.map_nil]
  rw [(readsBack_bool _).field? htoken, (readsBack_bool _).field? htrivia,
    (readsBack_bool _).field? hescape]
  rfl

theorem readsBack_reference (r : Reference) : ReadsBack r := by
  intro j h
  obtain ⟨values, hfields, hvalues⟩ :=
    Json.Alike.exists_fields ["name", "is_array"] h rfl (by decide)
  obtain _ | ⟨hname, _ | ⟨hisArray, _ | _⟩⟩ := hvalues
  simp only [decode?, hfields, List.map_cons, List.map_nil]
  rw [(readsBack_string _).field? hname, (readsBack_bool _).field? hisArray]
  rfl

theorem readsBack_openTag (tag : OpenTag) : ReadsBack tag := by
  intro j h
  obtain ⟨values, hfields, hvalues⟩ :=
    Json.Alike.exists_fields ["node_type", "flags", "language", "attributes"] h rfl (by decide)
  obtain _ | ⟨htype, _ | ⟨hflags, _ | ⟨hlanguage, _ | ⟨hattributes, _ | _⟩⟩⟩⟩ := hvalues
  simp only [decode?, hfields, List.map_cons, List.map_nil]
  rw [(readsBack_optionalString _).optionalField? htype, (readsBack_flags _).field? hflags,
    (readsBack_optionalString _).optionalField? hlanguage,
    (readsBack_attributes _).field? hattributes]
  rfl

theorem readsBack_doctypeTag (tag : DoctypeTag) : ReadsBack tag := by
  intro j h
  obtain ⟨values, hfields, hvalues⟩ :=
    Json.Alike.exists_fields ["version", "attributes"] h rfl (by decide)
  obtain _ | ⟨hversion, _ | ⟨hattributes, _ | _⟩⟩ := hvalues
  simp only [decode?, hfields, List.map_cons, List.map_nil]
  rw [(readsBack_uint32 _).field? hversion, (readsBack_attributes _).field? hattributes]
  rfl

theorem readsBack_terminal (t : Terminal) : ReadsBack t := by
  intro j h
  cases t with
  | doctype tag =>
      obtain ⟨body, rfl, hbody⟩ := Json.Alike.exists_body h
      show (field? (some body)).map Terminal.doctype = some (.doctype tag)
      rw [(readsBack_doctypeTag tag).field? hbody, Option.map_some]
  | openNode tag =>
      obtain ⟨body, rfl, hbody⟩ := Json.Alike.exists_body h
      show (field? (some body)).map Terminal.openNode = some (.openNode tag)
      rw [(readsBack_openTag tag).field? hbody, Option.map_some]
  | literal text =>
      obtain ⟨body, rfl, hbody⟩ := Json.Alike.exists_body h
      show (field? (some body)).map Terminal.literal = some (.literal text)
      rw [(readsBack_string text).field? hbody, Option.map_some]
  | reference r =>
      obtain ⟨body, rfl, hbody⟩ := Json.Alike.exists_body h
      show (field? (some body)).map Terminal.reference = some (.reference r)
      rw [(readsBack_reference r).field? hbody, Option.map_some]
  | close | gap | shift | null =>
      rw [Json.Alike.eq_str h]
      rfl

end Backtrack
