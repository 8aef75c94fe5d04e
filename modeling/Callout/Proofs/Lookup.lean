import Mathlib.Data.List.Basic
import Mathlib.Data.List.Nodup

namespace Callout

variable {α : Type} {l : List α} {x : α}

theorem find?_of_nodup (key : α → String) (nodup : (l.map key).Nodup) (member : x ∈ l) :
    l.find? (key · == key x) = some x := by
  induction l with
  | nil => cases member
  | cons y l ih =>
    rw [List.map_cons, List.nodup_cons] at nodup
    rcases List.mem_cons.mp member with rfl | member
    · rw [List.find?_cons_of_pos (by simp)]
    · have different : key y ≠ key x := by
        intro same
        exact nodup.1 (same ▸ List.mem_map_of_mem member)
      rw [List.find?_cons_of_neg (by simpa using different), ih nodup.2 member]

theorem find?_isSome_iff {key : α → String} {k : String} :
    (l.find? (key · == k)).isSome ↔ k ∈ l.map key := by
  rw [List.find?_isSome, List.mem_map]
  simp only [beq_iff_eq]

section Pairs

variable {κ β : Type} [BEq κ] [LawfulBEq κ] {entries : List (κ × β)} {k : κ} {v : β}

theorem lookup_of_not_mem (missing : k ∉ entries.map (·.1)) : entries.lookup k = none := by
  rw [List.lookup_eq_none_iff]
  intro entry member
  rw [bne_iff_ne]
  intro same
  exact missing (same ▸ List.mem_map_of_mem member)

theorem lookup_of_nodup (nodup : (entries.map (·.1)).Nodup) (member : (k, v) ∈ entries) :
    entries.lookup k = some v := by
  induction entries with
  | nil => cases member
  | cons first entries ih =>
    rw [List.map_cons, List.nodup_cons] at nodup
    rcases List.mem_cons.mp member with rfl | member
    · exact List.lookup_cons_self
    · have different : k ≠ first.1 := by
        intro same
        exact nodup.1 (same ▸ List.mem_map_of_mem member)
      rw [List.lookup_cons, beq_eq_false_iff_ne.mpr different]
      exact ih nodup.2 member

omit [LawfulBEq κ] in
theorem lookup_map {γ : Type} (f : β → γ) (entries : List (κ × β)) (k : κ) :
    (entries.map fun entry => (entry.1, f entry.2)).lookup k = (entries.lookup k).map f := by
  induction entries with
  | nil => rfl
  | cons entry entries ih =>
    rw [List.map_cons, List.lookup_cons, List.lookup_cons, ih]
    cases k == entry.1 <;> rfl

theorem lookup_filter (keep : κ → Bool) (entries : List (κ × β)) (k : κ) :
    (entries.filter fun entry => keep entry.1).lookup k =
      if keep k then entries.lookup k else none := by
  induction entries with
  | nil => rw [List.filter_nil, List.lookup_nil, ite_self]
  | cons entry entries ih =>
    rw [List.lookup_cons]
    by_cases same : k = entry.1
    · rw [List.filter_cons, ← same, beq_self_eq_true]
      cases kept : keep k with
      | true => rw [if_pos rfl, if_pos rfl, List.lookup_cons, ← same, beq_self_eq_true]
      | false =>
        rw [if_neg Bool.false_ne_true, ih, kept]
        rfl
    · have other : (k == entry.1) = false := beq_eq_false_iff_ne.mpr same
      rw [other, ← ih, List.filter_cons]
      split
      · rw [List.lookup_cons, other]
      · rfl

end Pairs

end Callout
