import Backtrack.Json.Tree
import Backtrack.Proofs.Json.Tag

/-!
Trees and documents are read back from their stored form, however deep they are.
-/

namespace Backtrack

open Codec

theorem readsBack_child (c : Child) : ReadsBack c := by
  intro j h
  cases c with
  | literal text =>
      obtain ⟨body, rfl, hbody⟩ := Json.Alike.exists_body h
      show (field? (some body)).map Child.literal = some (.literal text)
      rw [(readsBack_string text).field? hbody, Option.map_some]
  | reference r =>
      obtain ⟨body, rfl, hbody⟩ := Json.Alike.exists_body h
      show (field? (some body)).map Child.reference = some (.reference r)
      rw [(readsBack_reference r).field? hbody, Option.map_some]

theorem Node.ofJson?_of_fields {j tag children : Json} {properties : List Json}
    (h : j.fields? ["tag", "children", "properties"] =
      some [some tag, some children, some (.arr properties)]) :
    Node.ofJson? j =
      (field? (some tag)).bind fun tag => (field? (some children)).bind fun children =>
        (Property.bindingsOfJson? properties).bind fun properties =>
          some { tag, children, properties } := by
  rw [Node.ofJson?]
  split
  · next hsome =>
      rw [h] at hsome
      cases hsome
      rfl
  · next hother => exact absurd h (hother _ _ _)

theorem Node.ofJson?_of_alike {n : Node} {j : Json} (h : n.toJson.Alike j)
    (hproperties : ∀ items, Json.AlikeItems (Property.bindingsToJson n.properties) items →
      Property.bindingsOfJson? items = some n.properties) :
    Node.ofJson? j = some n := by
  obtain ⟨values, hfields, hvalues⟩ :=
    Json.Alike.exists_fields ["tag", "children", "properties"] h rfl (by decide)
  obtain _ | ⟨htag, _ | ⟨hchildren, _ | ⟨hitems, _ | _⟩⟩⟩ := hvalues
  cases hitems with
  | arr hitems =>
      rw [Node.ofJson?_of_fields hfields, (readsBack_openTag _).field? htag, Option.bind_some,
        (ReadsBack.list fun c _ => readsBack_child c).field? hchildren, Option.bind_some,
        hproperties _ hitems]
      rfl

mutual
theorem Property.ofJson?_of_alike (value : Property) {j : Json} (h : value.toJson.Alike j) :
    Property.ofJson? j = some value := by
  cases value with
  | node tag children properties =>
      rw [Property.toJson] at h
      obtain ⟨body, rfl, hbody⟩ := Json.Alike.exists_body h
      have hnode : Node.ofJson? body = some ⟨tag, children, properties⟩ :=
        Node.ofJson?_of_alike hbody (Property.bindingsOfJson?_of_alike properties)
      rw [Property.ofJson?, hnode]
      rfl
  | null =>
      rw [Property.toJson] at h
      rw [Json.Alike.eq_str h, Property.ofJson?]
  | gap =>
      rw [Property.toJson] at h
      rw [Json.Alike.eq_str h, Property.ofJson?]
  | list items =>
      rw [Property.toJson] at h
      obtain ⟨body, rfl, hbody⟩ := Json.Alike.exists_body h
      cases hbody with
      | arr hforms =>
          rw [Property.ofJson?, Property.listOfJson?_of_alike items _ hforms]
          rfl

theorem Property.bindingsOfJson?_of_alike (properties : List (String × Property))
    (forms : List Json) (h : Json.AlikeItems (Property.bindingsToJson properties) forms) :
    Property.bindingsOfJson? forms = some properties := by
  cases properties with
  | nil =>
      rw [Property.bindingsToJson] at h
      cases h
      rw [Property.bindingsOfJson?]
  | cons entry rest =>
      obtain ⟨name, value⟩ := entry
      rw [Property.bindingsToJson] at h
      cases h with
      | cons hpair hrest =>
          cases hpair with
          | arr hpair =>
              cases hpair with
              | cons hname hpair =>
                  cases hpair with
                  | cons hvalue hnil =>
                      cases hname
                      cases hnil
                      rw [Property.bindingsOfJson?, Property.ofJson?_of_alike value hvalue,
                        Property.bindingsOfJson?_of_alike rest _ hrest]
                      rfl

theorem Property.listOfJson?_of_alike (items : List Property) (forms : List Json)
    (h : Json.AlikeItems (Property.listToJson items) forms) :
    Property.listOfJson? forms = some items := by
  cases items with
  | nil =>
      rw [Property.listToJson] at h
      cases h
      rw [Property.listOfJson?]
  | cons value rest =>
      rw [Property.listToJson] at h
      cases h with
      | cons hvalue hrest =>
          rw [Property.listOfJson?, Property.ofJson?_of_alike value hvalue,
            Property.listOfJson?_of_alike rest _ hrest]
          rfl
end

theorem readsBack_node (n : Node) : ReadsBack n := by
  intro j h
  exact Node.ofJson?_of_alike h (Property.bindingsOfJson?_of_alike n.properties)

theorem readsBack_document (d : Document) : ReadsBack d := by
  intro j h
  obtain ⟨values, hfields, hvalues⟩ :=
    Json.Alike.exists_fields ["doctype", "root", "written"] h rfl (by decide)
  obtain _ | ⟨hdoctype, _ | ⟨hroot, _ | ⟨hwritten, _ | _⟩⟩⟩ := hvalues
  simp only [decode?, hfields, List.map_cons, List.map_nil]
  rw [(ReadsBack.option (fun a _ => readsBack_attributes a) rfl).optionalField? hdoctype,
    (readsBack_node _).field? hroot, (readsBack_string _).field? hwritten]
  rfl

end Backtrack
