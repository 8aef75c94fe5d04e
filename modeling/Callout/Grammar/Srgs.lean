import Callout.Grammar.Basic
import Callout.Xml.Basic

namespace Callout

def escapeScriptChar (c : Char) : List Char :=
  if c = '\\' ∨ c = '"' then ['\\', c] else [c]

def escapeScript (s : String) : String :=
  .ofList (s.toList.flatMap escapeScriptChar)

def Tag.script (t : Tag) : String :=
  match t.value with
  | .literal value => "out." ++ t.field ++ "=\"" ++ escapeScript value ++ "\";"
  | .ruleOutput rule => "out." ++ t.field ++ "=rules." ++ rule ++ ";"

def repeatRange (min : Nat) (max : Option Nat) : String :=
  toString min ++ "-" ++ (max.map toString).getD ""

open Xml (Node)

/-- What an element shows, before it is known where it stands. -/
inductive Expansion where
  | words (text : String)
  | parts (nodes : List Node)
  | single (node : Node)

namespace Expansion

def node : Expansion → Node
  | words text => .text "item" [] text
  | parts nodes => .element "item" [] nodes
  | single node => node

def contents : Expansion → List Node
  | parts nodes => nodes
  | other => [other.node]

def alternative : Expansion → Node
  | single node => .element "item" [] [node]
  | other => other.node

end Expansion

namespace Element

mutual

def expansion : Element → Expansion
  | phrase text => .words text
  | oneOf alternatives => .single (.element "one-of" [] (alternativeNodes alternatives))
  | sequence parts => .parts (partNodes parts)
  | ruleRef rule => .single (.empty "ruleref" [⟨"uri", "#" ++ rule⟩])
  | repetition inner min max =>
    .single (.element "item" [⟨"repeat", repeatRange min max⟩] inner.expansion.contents)
  | tag t => .single (.text "tag" [] t.script)

def partNodes : List Element → List Node
  | [] => []
  | e :: es => e.expansion.node :: partNodes es

def alternativeNodes : List Element → List Node
  | [] => []
  | e :: es => e.expansion.alternative :: alternativeNodes es

end

end Element

def RuleScope.name : RuleScope → String
  | shared => "public"
  | internal => "private"

def Rule.node (r : Rule) : Xml.Node :=
  .element "rule" [⟨"id", r.id⟩, ⟨"scope", r.scope.name⟩] r.body.expansion.contents

namespace Grammar

def node (g : Grammar) : Xml.Node :=
  .element "grammar"
    [⟨"xmlns", "http://www.w3.org/2001/06/grammar"⟩, ⟨"version", "1.0"⟩, ⟨"xml:lang", g.culture⟩,
      ⟨"root", g.root⟩, ⟨"tag-format", "semantics/1.0"⟩]
    (g.rules.map (·.node))

def srgs (g : Grammar) : String :=
  g.node.document

end Grammar

end Callout
