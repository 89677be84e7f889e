import Mathlib.Data.List.Nodup

/-!
# Finding entries by their keys

A search for a key finds every entry of a list whose keys differ, and nothing
but this entry.
-/

namespace TypedEnv

variable {α β : Type} [BEq β] [LawfulBEq β]

theorem find?_eq_some_of_mem {key : α → β} {items : List α} {item : α}
    (distinct : (items.map key).Nodup) (member : item ∈ items) :
    items.find? (fun other => key other == key item) = some item := by
  induction items with
  | nil => cases member
  | cons first rest induction =>
      rw [List.map_cons, List.nodup_cons] at distinct
      obtain ⟨fresh, restDistinct⟩ := distinct
      rcases List.mem_cons.mp member with rfl | inRest
      · rw [List.find?_cons_of_pos (by simp)]
      · have different : key first ≠ key item := by
          intro same
          exact fresh (same ▸ List.mem_map_of_mem inRest)
        rw [List.find?_cons_of_neg (by simpa using different)]
        exact induction restDistinct inRest

theorem filter_eq_singleton_of_mem {key : α → β} {items : List α} {item : α}
    (distinct : (items.map key).Nodup) (member : item ∈ items) :
    items.filter (fun other => key other == key item) = [item] := by
  induction items with
  | nil => cases member
  | cons first rest induction =>
      rw [List.map_cons, List.nodup_cons] at distinct
      obtain ⟨fresh, restDistinct⟩ := distinct
      rcases List.mem_cons.mp member with rfl | inRest
      · have apart : ∀ other ∈ rest, ¬ (key other == key item) = true := by
          intro other isOther same
          exact fresh (beq_iff_eq.mp same ▸ List.mem_map_of_mem isOther)
        rw [List.filter_cons_of_pos (by simp), List.filter_eq_nil_iff.mpr apart]
      · have different : key first ≠ key item := by
          intro same
          exact fresh (same ▸ List.mem_map_of_mem inRest)
        rw [List.filter_cons_of_neg (by simpa using different)]
        exact induction restDistinct inRest

/-- The order of entries with different keys does not matter for a search. -/
theorem find?_eq_of_perm {key : α → β} {first second : List α} (permutation : first.Perm second)
    (distinct : (first.map key).Nodup) (wanted : β) :
    first.find? (fun item => key item == wanted) =
      second.find? (fun item => key item == wanted) := by
  cases found : first.find? (fun item => key item == wanted) with
  | none =>
      have absent := List.find?_eq_none.mp found
      refine (List.find?_eq_none.mpr fun item member => ?_).symm
      exact absent item (permutation.mem_iff.mpr member)
  | some item =>
      have member := permutation.mem_iff.mp (List.mem_of_find?_eq_some found)
      have isWanted : key item = wanted := by simpa using List.find?_some found
      have secondDistinct := (permutation.map key).nodup_iff.mp distinct
      rw [← isWanted]
      exact (find?_eq_some_of_mem secondDistinct member).symm

omit [BEq β] [LawfulBEq β] in
/-- Lists with the same keys in the same order are the same when keys tell entries apart. -/
theorem eq_of_map_key_eq {key : α → β} {first second : List α}
    (sameKeys : first.map key = second.map key)
    (told : ∀ item ∈ first, ∀ other ∈ second, key item = key other → item = other) :
    first = second := by
  induction first generalizing second with
  | nil => exact (List.map_eq_nil_iff.mp sameKeys.symm).symm
  | cons item rest induction =>
      obtain ⟨other, others, rfl, sameKey, restKeys⟩ := List.map_eq_cons_iff.mp sameKeys.symm
      have sameItem := told item List.mem_cons_self other List.mem_cons_self sameKey.symm
      have sameRest := induction restKeys.symm fun item member other isOther =>
        told item (List.mem_cons_of_mem _ member) other (List.mem_cons_of_mem _ isOther)
      rw [sameItem, sameRest]

theorem lookup_eq_some_of_mem {entries : List (β × α)} {key : β} {value : α}
    (distinct : (entries.map Prod.fst).Nodup) (member : (key, value) ∈ entries) :
    entries.lookup key = some value := by
  obtain ⟨before, after, rfl⟩ := List.append_of_mem member
  refine List.lookup_eq_some_iff.mpr ⟨before, after, rfl, ?_⟩
  intro entry inBefore
  rw [List.map_append, List.nodup_append] at distinct
  obtain ⟨-, -, apart⟩ := distinct
  have different : entry.1 ≠ key :=
    apart entry.1 (List.mem_map_of_mem inBefore) key (by simp)
  simpa [bne_iff_ne] using different.symm

theorem lookup_map_of_mem {γ : Type} {key : γ → β} {value : γ → α} {items : List γ} {item : γ}
    (distinct : (items.map key).Nodup) (member : item ∈ items) :
    (items.map fun other => (key other, value other)).lookup (key item) = some (value item) := by
  apply lookup_eq_some_of_mem
  · rw [List.map_map]
    exact distinct
  · exact List.mem_map_of_mem member

end TypedEnv
