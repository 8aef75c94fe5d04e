import Callout.Proofs.Semantics.Fragments
import Callout.Proofs.Semantics.Marker

namespace Callout

theorem mem_of_mem_intercalate {α : Type} {sep : List α} {pieces : List (List α)} {c : α}
    (member : c ∈ sep.intercalate pieces) : c ∈ sep ∨ ∃ piece ∈ pieces, c ∈ piece := by
  induction pieces with
  | nil => cases member
  | cons piece pieces ih =>
    cases pieces with
    | nil => exact .inr ⟨piece, List.mem_singleton_self piece, by simpa using member⟩
    | cons next pieces =>
      rw [List.intercalate_cons_cons, List.append_assoc, List.mem_append, List.mem_append] at member
      rcases member with first | between | later
      · exact .inr ⟨piece, List.mem_cons_self, first⟩
      · exact .inl between
      · exact (ih later).imp_right fun ⟨p, listed, inside⟩ =>
          ⟨p, List.mem_cons_of_mem piece listed, inside⟩

/-- A text that stays in one piece when a field is taken apart, unless it is empty. -/
def IsClear (text : String) : Prop :=
  ∀ c ∈ text.toList, isDelimiter c = false ∧ c ≠ '['

instance (text : String) : Decidable (IsClear text) :=
  decidable_of_iff (text.toList.all fun c => isDelimiter c == false && c != '[')
    (by simp [IsClear])

theorem fragments_intercalate {texts : List String} (clear : ∀ text ∈ texts, IsClear text) :
    fragments (" ".intercalate texts) = texts.filter (· ≠ "") := by
  have joined : (" ".intercalate texts).toList = [' '].intercalate (texts.map String.toList) :=
    String.toList_intercalate
  -- The marker starts with a bracket, and the names hold none.
  have absent : ¬ objectMarker.toList <:+: [' '].intercalate (texts.map String.toList) := by
    intro present
    have bracket : '[' ∈ objectMarker.toList := by decide +kernel
    rcases mem_of_mem_intercalate (present.subset bracket) with space | ⟨piece, listed, inside⟩
    · cases List.mem_singleton.mp space
    · obtain ⟨text, member, rfl⟩ := List.mem_map.mp listed
      exact (clear text member '[' inside).2 rfl
  rw [fragments, joined, removeFirst_of_absent absent, Text.runs_intercalate (by decide),
    List.flatMap_map, List.map_flatMap]
  clear absent joined
  induction texts with
  | nil => rfl
  | cons text texts ih =>
    obtain ⟨first, others⟩ := List.forall_mem_cons.mp clear
    rw [List.flatMap_cons, ih others]
    by_cases empty : text = ""
    · simp [empty, Text.runs_nil]
    · have filled : text.toList ≠ [] := by simpa using empty
      rw [Text.runs_of_forall filled fun c member => (first c member).1]
      simp [empty]

theorem fragments_of_clear {text : String} (clear : IsClear text) :
    fragments text = [text].filter (· ≠ "") := by
  have parts : fragments (" ".intercalate [text]) = [text].filter (· ≠ "") :=
    fragments_intercalate (by simpa using clear)
  rwa [String.intercalate_singleton] at parts

theorem IsFragment.fragments_eq {text : String} (plain : IsFragment text) :
    fragments text = [text] := by
  have parts : fragments (fieldText [text]) = [text] := fragments_fieldText (by simpa using plain)
  exact parts

end Callout
