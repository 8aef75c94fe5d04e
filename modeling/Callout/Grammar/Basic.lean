namespace Callout

def subjectField : String := "subject"

def commandField : String := "command"

def directObjectField : String := "directObject"

inductive TagValue where
  | literal (value : String)
  | ruleOutput (rule : String)
  deriving DecidableEq, Repr

structure Tag where
  field : String
  value : TagValue
  deriving DecidableEq, Repr

inductive Element where
  | phrase (text : String)
  -- One of the alternatives, earlier ones preferred.
  | oneOf (alternatives : List Element)
  | sequence (parts : List Element)
  | ruleRef (rule : String)
  | repetition (inner : Element) (min : Nat) (max : Option Nat)
  | tag (tag : Tag)
  deriving Repr

namespace Element

def optional (e : Element) : Element :=
  repetition e 0 (some 1)

def literalTag (field value : String) : Element :=
  tag ⟨field, .literal value⟩

def ruleTag (field rule : String) : Element :=
  tag ⟨field, .ruleOutput rule⟩

mutual

def referencedRules : Element → List String
  | phrase _ => []
  | oneOf alternatives => referencedRulesOfAll alternatives
  | sequence parts => referencedRulesOfAll parts
  | ruleRef rule => [rule]
  | repetition inner _ _ => inner.referencedRules
  | tag _ => []

def referencedRulesOfAll : List Element → List String
  | [] => []
  | e :: es => e.referencedRules ++ referencedRulesOfAll es

end

end Element

inductive RuleScope where
  | shared
  | internal
  deriving DecidableEq, Repr

structure Rule where
  id : String
  scope : RuleScope
  body : Element
  deriving Repr

structure Grammar where
  culture : String
  rules : List Rule
  root : String
  deriving Repr

namespace Grammar

def rule? (g : Grammar) (id : String) : Option Rule :=
  g.rules.find? (·.id == id)

def rootRule? (g : Grammar) : Option Rule :=
  g.rule? g.root

end Grammar

end Callout
