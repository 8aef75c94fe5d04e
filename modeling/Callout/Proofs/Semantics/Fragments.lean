import Callout.Proofs.Semantics.Fields
import Callout.Proofs.Text.Runs
import Mathlib.Data.List.Chain

namespace Callout

def IsFragment (text : String) : Prop :=
  text ≠ "" ∧ ∀ c ∈ text.toList, isDelimiter c = false

instance (text : String) : Decidable (IsFragment text) :=
  decidable_of_iff (text ≠ "" ∧ text.toList.all fun c => isDelimiter c == false)
    (by simp [IsFragment])

def braced (value : String) : List Char :=
  '\x7b' :: (value.toList ++ ['\x7d'])

theorem toList_fieldText_singleton (value : String) :
    (fieldText [value]).toList = value.toList := rfl

theorem toList_fieldText {values : List String} (several : ∀ value, values ≠ [value]) :
    (fieldText values).toList = [' '].intercalate (values.map braced) := by
  have same : fieldText values =
      " ".intercalate (values.map fun v => "\x7b" ++ v ++ "\x7d") := by
    unfold fieldText
    split
    · exact absurd rfl (several _)
    · rfl
  rw [same, String.toList_intercalate, List.map_map]
  congr 1
  apply List.map_congr_left
  intro value _
  simp [braced]

theorem IsFragment.toList_ne_nil {text : String} (h : IsFragment text) : text.toList ≠ [] := by
  intro empty
  exact h.1 (String.toList_eq_nil_iff.mp empty)

def Unmarked (cs : List Char) : Prop :=
  cs.IsChain fun a b => b = ' ' → a ≠ 't'

theorem removeFirst_of_unmarked {cs : List Char} (h : Unmarked cs) :
    removeFirst objectMarker.toList cs = cs := by
  induction cs with
  | nil => rfl
  | cons c cs ih =>
    have absent : ¬ objectMarker.toList <+: c :: cs := by
      intro present
      have inner : ['t', ' '] <:+: objectMarker.toList := by decide +kernel
      have chain := List.IsChain.infix h (inner.trans present.isInfix)
      simp at chain
    unfold removeFirst
    rw [if_neg (by simpa using absent), ih (List.IsChain.tail h)]

theorem unmarked_of_no_space {cs : List Char} (h : ∀ c ∈ cs, c ≠ ' ') : Unmarked cs := by
  induction cs with
  | nil => exact List.IsChain.nil
  | cons c cs ih =>
    apply List.isChain_cons.mpr
    constructor
    · intro d first space
      exact absurd space (h d (List.mem_cons_of_mem _ (List.mem_of_mem_head? first)))
    · exact ih fun d member => h d (List.mem_cons_of_mem _ member)

theorem IsFragment.no_space {text : String} (h : IsFragment text) : ∀ c ∈ text.toList, c ≠ ' ' := by
  intro c member same
  have plain := h.2 c member
  simp [isDelimiter, same] at plain

theorem IsFragment.unmarked_braced {text : String} (h : IsFragment text) :
    Unmarked (braced text) := by
  apply unmarked_of_no_space
  intro c member
  simp only [braced, List.mem_cons, List.mem_append, List.not_mem_nil, or_false] at member
  rcases member with rfl | member | rfl
  · decide
  · exact h.no_space c member
  · decide

theorem unmarked_intercalate {values : List String} (h : ∀ value ∈ values, IsFragment value) :
    Unmarked ([' '].intercalate (values.map braced)) := by
  induction values with
  | nil => exact List.IsChain.nil
  | cons value values ih =>
    have first := (h value (by simp)).unmarked_braced
    have others := ih fun v member => h v (List.mem_cons_of_mem _ member)
    cases values with
    | nil => simpa using first
    | cons next values =>
      rw [List.map_cons, List.map_cons, List.intercalate_cons_cons, List.append_assoc]
      apply List.isChain_append.mpr
      refine ⟨first, ?_, ?_⟩
      · apply List.isChain_cons.mpr
        exact ⟨fun _ _ _ => by decide, others⟩
      · intro a last b _ _
        have shape : braced value = ('\x7b' :: value.toList) ++ ['\x7d'] := rfl
        rw [shape, List.getLast?_concat, Option.mem_some_iff] at last
        rw [← last]
        decide

theorem runs_braced {value : String} (plain : IsFragment value) :
    Text.runs isDelimiter (braced value) = [value.toList] := by
  unfold braced
  rw [Text.runs_cons_sep (by decide), Text.runs_append_sep (by decide), Text.runs_nil,
    Text.runs_of_forall plain.toList_ne_nil plain.2, List.append_nil]

theorem runs_intercalate {values : List String} (h : ∀ value ∈ values, IsFragment value) :
    Text.runs isDelimiter ([' '].intercalate (values.map braced)) = values.map String.toList := by
  rw [Text.runs_intercalate (by decide), List.flatMap_map, List.map_eq_flatMap]
  exact List.flatMap_congr fun value member => runs_braced (h value member)

theorem fragments_fieldText {values : List String} (h : ∀ value ∈ values, IsFragment value) :
    fragments (fieldText values) = values := by
  have back : (values.map String.toList).map String.ofList = values := by
    simp [Function.comp_def]
  unfold fragments
  by_cases several : ∀ value, values ≠ [value]
  · rw [toList_fieldText several, removeFirst_of_unmarked (unmarked_intercalate h),
      runs_intercalate h, back]
  · obtain ⟨value, rfl⟩ : ∃ value, values = [value] := by simpa using several
    have plain := h value (by simp)
    rw [toList_fieldText_singleton, removeFirst_of_unmarked (unmarked_of_no_space plain.no_space),
      Text.runs_of_forall plain.toList_ne_nil plain.2]
    exact back

namespace SemanticResult

variable {a : List (String × String)} {field : String}

theorem list?_ofAssignments (h : ∀ value ∈ valuesOf field a, IsFragment value) :
    (ofAssignments a).list? field =
      if valuesOf field a = [] then none else some (valuesOf field a) := by
  unfold list? text?
  rw [get?_ofAssignments]
  split
  · rfl
  · rw [Option.map_some, Option.map_some, fragments_fieldText h]

theorem scalar?_ofAssignments (h : ∀ value ∈ valuesOf field a, IsFragment value) :
    (ofAssignments a).scalar? field = (valuesOf field a).head? := by
  unfold scalar? text?
  rw [get?_ofAssignments]
  split
  · rename_i empty
    rw [empty]
    rfl
  · rw [Option.map_some, Option.bind_some, fragments_fieldText h]

end SemanticResult

end Callout
