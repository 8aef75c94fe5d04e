import Callout.Registry

namespace Callout

def rootRule : String := "commands"

structure Assembler where
  culture : String
  subject : Slot
  directObjects : List Rule
  ruleIds : List String
  alternatives : List Element
  registry : Registry

namespace Assembler

def new (culture : String) (subject : Slot) : Except Error Assembler :=
  if subject.name == rootRule then .error (.duplicateRule rootRule)
  else .ok
    ⟨culture, subject, [], [rootRule, subject.name], [subject.reference.mention], .empty subject⟩

def subjectRef (a : Assembler) : SlotReference :=
  a.subject.reference

/-- Adds a command, or nothing at all if its id or the name of its direct object is taken. -/
def addCommand (a : Assembler) (c : Command) : Except Error Assembler :=
  if a.registry.contains c.id then .error (.duplicateCommand c.id)
  else match c.directObject.map (·.name) |>.filter a.ruleIds.contains with
    | some name => .error (.duplicateRule name)
    | none =>
      (a.registry.register c).map fun registry =>
        { a with
          directObjects := a.directObjects ++ (c.directObject.map (·.rule)).toList
          ruleIds := a.ruleIds ++ (c.directObject.map (·.rule.id)).toList
          alternatives := a.alternatives ++ [c.alternative]
          registry }

def commandCount (a : Assembler) : Nat :=
  a.registry.size

def grammar (a : Assembler) : Grammar where
  culture := a.culture
  rules := a.subject.rule :: a.directObjects ++ [⟨rootRule, .shared, .oneOf a.alternatives⟩]
  root := rootRule

def build (a : Assembler) : Grammar × Registry :=
  (a.grammar, a.registry)

end Assembler

end Callout
