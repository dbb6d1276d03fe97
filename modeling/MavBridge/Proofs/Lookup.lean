import Mathlib.Data.List.Nodup

/-!
# Finding by a key

In a list whose keys are pairwise distinct, the entry that is found under a key is the only one that
has it.
-/

namespace MavBridge

variable {Entry Key : Type} [BEq Key] [LawfulBEq Key]

theorem find?_key_eq_some_iff (key : Entry → Key) {entries : List Entry}
    (distinct : (entries.map key).Nodup) {wanted : Key} {entry : Entry} :
    (entries.find? fun other => key other == wanted) = some entry ↔
      entry ∈ entries ∧ key entry = wanted := by
  constructor
  · intro found
    exact ⟨List.mem_of_find?_eq_some found, by simpa using List.find?_some found⟩
  · rintro ⟨membership, keyed⟩
    cases found : entries.find? fun other => key other == wanted with
    | none =>
        have missing := List.find?_eq_none.mp found entry membership
        simp [keyed] at missing
    | some other =>
        have otherKeyed : key other = wanted := by simpa using List.find?_some found
        have same : other = entry :=
          List.inj_on_of_nodup_map distinct (List.mem_of_find?_eq_some found) membership
            (otherKeyed.trans keyed.symm)
        rw [same]

theorem find?_key_eq_none_iff (key : Entry → Key) {entries : List Entry} {wanted : Key} :
    (entries.find? fun other => key other == wanted) = none ↔ wanted ∉ entries.map key := by
  rw [List.find?_eq_none]
  constructor
  · intro missing membership
    rcases List.mem_map.mp membership with ⟨entry, entryMembership, keyed⟩
    exact missing entry entryMembership (by simp [keyed])
  · intro missing entry membership keyed
    have keyedEq : key entry = wanted := by simpa using keyed
    exact missing (keyedEq ▸ List.mem_map_of_mem membership)

/-- The entry under a key, and the others. -/
theorem perm_cons_filter_key (key : Entry → Key) {entries : List Entry}
    (distinct : (entries.map key).Nodup) {entry : Entry} (membership : entry ∈ entries) :
    entries.Perm (entry :: entries.filter fun other => key other != key entry) := by
  induction entries with
  | nil => cases membership
  | cons first rest inductionHypothesis =>
      rw [List.map_cons, List.nodup_cons] at distinct
      rcases List.mem_cons.mp membership with rfl | later
      · have others : (entry :: rest).filter (fun other => key other != key entry) = rest := by
          rw [List.filter_cons_of_neg (by simp)]
          refine List.filter_eq_self.mpr ?_
          intro other otherMembership
          rw [bne_iff_ne]
          intro same
          exact distinct.1 (same ▸ List.mem_map_of_mem otherMembership)
        rw [others]
      · have theirs : key first ≠ key entry := by
          intro same
          exact distinct.1 (same ▸ List.mem_map_of_mem later)
        rw [List.filter_cons_of_pos (by simp [theirs])]
        exact ((inductionHypothesis distinct.2 later).cons first).trans (.swap entry first _)

end MavBridge
