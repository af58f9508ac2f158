import Mathlib.Data.List.Basic
import Mathlib.Data.List.Nodup

/-!
Lists of entries, each under a key.  The slots of a node, the members of an object and
the attributes of a tag are such lists, and the first entry under a key is the one that
is found.
-/

namespace Backtrack

variable {α : Type} {entries : List (String × α)}

theorem lookup_eq_none_iff_key {key : String} :
    entries.lookup key = none ↔ key ∉ entries.map (·.1) := by
  rw [List.lookup_eq_none_iff]
  constructor
  · intro h hmem
    obtain ⟨entry, hentry, rfl⟩ := List.mem_map.mp hmem
    simpa using h entry hentry
  · intro h entry hentry
    have hne : key ≠ entry.1 := by
      rintro rfl
      exact h (List.mem_map_of_mem hentry)
    simpa using hne

theorem mem_of_lookup {key : String} {value : α} (h : entries.lookup key = some value) :
    (key, value) ∈ entries := by
  obtain ⟨before, after, rfl, _⟩ := List.lookup_eq_some_iff.mp h
  exact List.mem_append_right _ List.mem_cons_self

theorem lookup_of_mem {entry : String × α} (hdistinct : (entries.map (·.1)).Nodup)
    (h : entry ∈ entries) : entries.lookup entry.1 = some entry.2 := by
  obtain ⟨before, after, rfl⟩ := List.append_of_mem h
  refine List.lookup_eq_some_iff.mpr ⟨before, after, rfl, fun other hother => ?_⟩
  rw [List.map_append, List.nodup_append] at hdistinct
  have hne := hdistinct.2.2 _ (List.mem_map_of_mem hother) _ List.mem_cons_self
  simpa using Ne.symm hne

end Backtrack
