import Callout.Grammar.Match
import Callout.Semantics.Basic

namespace Callout

def valuesOf (field : String) (assigned : List (String × String)) : List String :=
  (assigned.filter (·.1 == field)).map (·.2)

/-- The text of a field with the given values: a single one as it is, several as `{A} {B}`. -/
def fieldText : List String → String
  | [value] => value
  | values => " ".intercalate (values.map fun v => "\x7b" ++ v ++ "\x7d")

def SemanticResult.ofAssignments (assigned : List (String × String)) : SemanticResult :=
  .ofList ((assigned.map (·.1)).eraseDups.map fun field =>
    (field, .string (fieldText (valuesOf field assigned))))

/-- The semantic result of an utterance, if its words match the root rule. -/
def Grammar.interpret (g : Grammar) (utterance : String) : Option SemanticResult :=
  (g.assignments? (Text.words utterance)).map .ofAssignments

end Callout
