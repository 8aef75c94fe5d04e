import Callout.Proofs.Grammar.Recognition
import Callout.Proofs.Semantics.Fields

namespace Callout.Grammar

theorem interpret_isSome_iff (g : Grammar) (utterance : String) :
    (g.interpret utterance).isSome ↔
      Text.words utterance ≠ [] ∧ ∃ a, g.Spells (Text.words utterance) a := by
  rw [interpret, Option.isSome_map, assignments?_isSome_iff]

theorem assignments?_of_interpret {g : Grammar} {utterance : String} {r : SemanticResult}
    (h : g.interpret utterance = some r) :
    ∃ a, g.assignments? (Text.words utterance) = some a ∧ r = .ofAssignments a := by
  obtain ⟨a, found, same⟩ := Option.map_eq_some_iff.mp h
  exact ⟨a, found, same.symm⟩

/-- The matcher agrees with the derivations in which at most 32 references are nested, and the
fields of its result hold the entries of one of them. -/
theorem interpret_exact (g : Grammar) (utterance : String) (spoken : Text.words utterance ≠ []) :
    ((g.interpret utterance).isSome ↔
      ∃ root a, g.rootRule? = some root ∧ g.Derives 32 root.body (Text.words utterance) a) ∧
    ∀ r, g.interpret utterance = some r →
      ∃ root a, g.rootRule? = some root ∧ g.Derives 32 root.body (Text.words utterance) a ∧
        r = .ofAssignments a ∧
        ∀ field, r.get? field = match valuesOf field a with
          | [] => none
          | [value] => some (.string value)
          | values => some (.string
              (" ".intercalate (values.map fun value => "\x7b" ++ value ++ "\x7d"))) := by
  constructor
  · rw [interpret_isSome_iff]
    constructor
    · intro known
      obtain ⟨_, a, root, found, derived⟩ := known
      exact ⟨root, a, found, derived⟩
    · intro known
      obtain ⟨root, a, found, derived⟩ := known
      exact ⟨spoken, a, root, found, derived⟩
  · intro r h
    obtain ⟨a, found, rfl⟩ := assignments?_of_interpret h
    obtain ⟨_, root, rooted, derived⟩ := spells_of_assignments? found
    refine ⟨root, a, rooted, derived, rfl, ?_⟩
    intro field
    rw [SemanticResult.get?_ofAssignments]
    match valuesOf field a with
    | [] => rfl
    | [value] => rfl
    | first :: second :: more => rfl

def leftRecursive : Grammar where
  culture := "en-US"
  rules :=
    [⟨"list", .shared, .oneOf [.sequence [.ruleRef "list", .ruleRef "unit"], .ruleRef "unit"]⟩,
     ⟨"unit", .internal,
       .oneOf [.sequence [.phrase "one", .literalTag subjectField "ONE"],
         .sequence [.phrase "two", .literalTag subjectField "TWO"]]⟩]
  root := "list"

theorem interpret_exact_left_recursive :
    Text.words "One, two!" ≠ [] ∧ (leftRecursive.interpret "One, two!").isSome ∧
      ∃ root a, leftRecursive.rootRule? = some root ∧
        leftRecursive.Derives 32 root.body (Text.words "One, two!") a :=
  have spoken : Text.words "One, two!" ≠ [] := by decide +kernel
  have understood : (leftRecursive.interpret "One, two!").isSome := by decide +kernel
  ⟨spoken, understood, (interpret_exact leftRecursive "One, two!" spoken).1.mp understood⟩

end Callout.Grammar
