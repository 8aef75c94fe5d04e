import Callout.Proofs.Semantics.Fragments

namespace Callout

theorem isFragment_of_mem_fragments {text piece : String} (member : piece ∈ fragments text) :
    IsFragment piece := by
  obtain ⟨run, taken, rfl⟩ := List.mem_map.mp member
  have filled : run ≠ [] := Text.ne_nil_of_mem_runs taken
  have plain : ∀ c ∈ run, isDelimiter c = false := Text.not_sep_of_mem_runs taken
  constructor
  · simpa using filled
  · simpa using plain

theorem fragments_fieldText_iff {values : List String} :
    fragments (fieldText values) = values ↔ ∀ value ∈ values, IsFragment value := by
  constructor
  · intro back value member
    rw [← back] at member
    exact isFragment_of_mem_fragments member
  · exact fragments_fieldText

namespace SemanticResult

variable {r : SemanticResult} {field : String} {a : List (String × String)} {values : List String}

theorem text?_ofAssignments (written : valuesOf field a ≠ []) :
    (ofAssignments a).text? field = some (fieldText (valuesOf field a)) := by
  unfold text?
  rw [get?_ofAssignments, if_neg written]
  rfl

theorem isFragment_of_list? (listed : r.list? field = some values) :
    ∀ value ∈ values, IsFragment value := by
  obtain ⟨text, _, rfl⟩ := Option.map_eq_some_iff.mp listed
  exact fun _ => isFragment_of_mem_fragments

theorem list?_insert_fieldText (clean : ∀ value ∈ values, IsFragment value) :
    (r.insert field (.string (fieldText values))).list? field = some values := by
  unfold list? text?
  rw [get?_insert, if_pos rfl]
  exact congrArg some (fragments_fieldText clean)

end SemanticResult

/-- The values that a match writes to a field come back from it, in order and with repeats, if and
only if each of them is a fragment as it stands; and any list that a field is read as consists of
such values, so that it comes back when it is written again. -/
theorem list?_interpret_iff {g : Grammar} {utterance : String} {a : List (String × String)}
    (matched : g.assignments? (Text.words utterance) = some a) {field : String}
    (written : valuesOf field a ≠ []) :
    (∃ r, g.interpret utterance = some r ∧
      r.text? field = some (fieldText (valuesOf field a)) ∧
      (r.list? field = some (valuesOf field a) ↔ ∀ value ∈ valuesOf field a, IsFragment value) ∧
      ((∀ value ∈ valuesOf field a, IsFragment value) →
        r.scalar? field = (valuesOf field a).head?)) ∧
    ∀ (r : SemanticResult) (name : String) (values : List String), r.list? name = some values →
      (∀ value ∈ values, IsFragment value) ∧
      (r.insert name (.string (fieldText values))).list? name = some values := by
  have text := SemanticResult.text?_ofAssignments written
  constructor
  · refine ⟨.ofAssignments a, congrArg _ matched, text, ?_, SemanticResult.scalar?_ofAssignments⟩
    rw [SemanticResult.list?, text, Option.map_some, Option.some.injEq]
    exact fragments_fieldText_iff
  · intro r name values listed
    have clean := SemanticResult.isFragment_of_list? listed
    exact ⟨clean, SemanticResult.list?_insert_fieldText clean⟩

def rollCall : Grammar where
  culture := "en-US"
  rules :=
    [⟨"call", .shared,
      .sequence [.phrase "one", .literalTag subjectField "ONE", .literalTag "remark" "all well",
        .phrase "two", .literalTag subjectField "TWO"]⟩]
  root := "call"

theorem list?_interpret_rollCall :
    ∃ r, rollCall.interpret "One, two!" = some r ∧ r.list? subjectField = some ["ONE", "TWO"] ∧
      r.list? "remark" ≠ some ["all well"] := by
  let entries := [(subjectField, "ONE"), ("remark", "all well"), (subjectField, "TWO")]
  have matched : rollCall.assignments? (Text.words "One, two!") = some entries := by
    decide +kernel
  have units : valuesOf subjectField entries ≠ [] := by decide
  have remarked : valuesOf "remark" entries ≠ [] := by decide
  obtain ⟨⟨r, understood, _, subjects, _⟩, _⟩ := list?_interpret_iff matched units
  obtain ⟨⟨r', understood', _, remarks, _⟩, _⟩ := list?_interpret_iff matched remarked
  obtain rfl := Option.some.inj (understood.symm.trans understood')
  refine ⟨r, understood, subjects.mpr (by decide), ?_⟩
  intro listed
  have clean := remarks.mp listed "all well" (by decide)
  exact absurd clean (by decide)

end Callout
