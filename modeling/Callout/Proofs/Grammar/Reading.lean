import Callout.Grammar.Interpret
import Callout.Proofs.Grammar.Document
import Callout.Proofs.Grammar.Rewriting
import Callout.Proofs.Grammar.Script
import Callout.Proofs.Text.Runs
import Callout.Proofs.Xml.Tree

namespace Callout

open Xml (Node)

namespace Element

mutual

def fields : Element → List String
  | phrase _ => []
  | oneOf alternatives => fieldsOfAll alternatives
  | sequence parts => fieldsOfAll parts
  | ruleRef _ => []
  | repetition inner _ _ => inner.fields
  | tag t => [t.field]

def fieldsOfAll : List Element → List String
  | [] => []
  | e :: es => e.fields ++ fieldsOfAll es

end

mutual

def ofNode : Node → Element
  | .text name _ content => if name = "tag" then .tag (.read content) else .phrase content
  | .empty name attributes =>
    .ruleRef (.ofList (((Node.empty name attributes).value "uri").toList.drop 1))
  | .element name attributes children =>
    if name = "one-of" then .oneOf (ofNodes children)
    else if attributes.isEmpty then .sequence (ofNodes children)
    else
      let (min, max) := readRange ((Node.element name attributes children).value "repeat")
      .repetition (.sequence (ofNodes children)) min max

def ofNodes : List Node → List Element
  | [] => []
  | n :: ns => ofNode n :: ofNodes ns

end

variable {es : List Element} {f : String}

theorem mem_fieldsOfAll : f ∈ fieldsOfAll es ↔ ∃ e ∈ es, f ∈ e.fields := by
  induction es with
  | nil => simp [fieldsOfAll]
  | cons e es ih => simp [fieldsOfAll, ih]

theorem ofNodes_eq (ns : List Node) : ofNodes ns = ns.map ofNode := by
  induction ns with
  | nil => rfl
  | cons n ns ih => rw [ofNodes, ih, List.map_cons]

theorem ofNodes_tidyOfAll_map (place : Element → Node) :
    ofNodes (Node.tidyOfAll (es.map place)) = es.map fun e => ofNode (place e).tidy := by
  rw [Node.tidyOfAll_eq, ofNodes_eq, List.map_map, List.map_map]
  rfl

theorem ofNode_item (children : List Node) :
    ofNode (.element "item" [] children) = .sequence (ofNodes children) := by
  rw [ofNode, if_neg (by decide), List.isEmpty_nil, if_pos rfl]

theorem ofNode_oneOf (children : List Node) :
    ofNode (.element "one-of" [] children) = .oneOf (ofNodes children) := by
  rw [ofNode, if_pos rfl]

theorem ofNode_repetition (min : Nat) (max : Option Nat) (children : List Node) :
    ofNode (.element "item" [⟨"repeat", repeatRange min max⟩] children) =
      .repetition (.sequence (ofNodes children)) min max := by
  have range : (Node.element "item" [⟨"repeat", repeatRange min max⟩] children).value "repeat" =
      repeatRange min max := by
    simp [Node.value, Node.attributes]
  rw [ofNode, if_neg (by decide), List.isEmpty_cons, if_neg Bool.false_ne_true, range,
    readRange_repeatRange]

theorem ofNode_ruleRef (rule : String) :
    ofNode (.empty "ruleref" [⟨"uri", "#" ++ rule⟩]) = .ruleRef rule := by
  have uri : (Node.empty "ruleref" [⟨"uri", "#" ++ rule⟩]).value "uri" = "#" ++ rule := by
    simp [Node.value, Node.attributes]
  rw [ofNode, uri, String.toList_append]
  show ruleRef (.ofList rule.toList) = _
  rw [String.ofList_toList]

theorem ofNode_tag {t : Tag} (plain : '=' ∉ t.field.toList) :
    ofNode (Node.text "tag" [] t.script).tidy = .tag t := by
  have written : t.script.toList.all Xml.isLayout = false := by
    rw [Tag.toList_script]
    rfl
  rw [Node.tidy, Node.closed_of_content written, ofNode, if_pos rfl, Tag.read_script plain]

variable {refs : String → Step}

theorem words_of_layout {text : String} (layout : text.toList.all Xml.isLayout = true) :
    Text.words text = [] := by
  have spaces : ∀ c ∈ text.toList, Text.isSpace c = true := by
    intro c member
    have kind := List.all_eq_true.mp layout c member
    simp only [Xml.isLayout, Bool.or_eq_true, beq_iff_eq] at kind
    rcases kind with rfl | rfl <;> decide
  rw [Text.words, Text.wordsOf, Text.runs_of_forall_sep spaces]
  rfl

theorem paths_ofNode_phrase (text : String) :
    (ofNode (Node.text "item" [] text).tidy).paths refs = (phrase text).paths refs := by
  by_cases layout : text.toList.all Xml.isLayout = true
  · rw [Node.tidy, Node.closed_of_layout (List.all_eq_true.mp layout), ofNode_item, paths, paths,
      words_of_layout layout]
    rfl
  · rw [Node.tidy, Node.closed_of_content (Bool.eq_false_iff.mpr layout), ofNode,
      if_neg (by decide)]

theorem paths_contents (x : Expansion) :
    pathsOfAll refs (ofNodes (Node.tidyOfAll x.contents)) = (ofNode x.node.tidy).paths refs := by
  cases x with
  | words text => exact pathsOfAll_singleton _
  | parts nodes => rw [Expansion.node, Node.tidy, ofNode_item]; rfl
  | single node => exact pathsOfAll_singleton _

theorem paths_alternative (x : Expansion) :
    (ofNode x.alternative.tidy).paths refs = (ofNode x.node.tidy).paths refs := by
  cases x with
  | words text => rfl
  | parts nodes => rfl
  | single node =>
    rw [Expansion.alternative, Node.tidy, ofNode_item]
    exact pathsOfAll_singleton _

theorem paths_ofNode (e : Element) (plain : ∀ f ∈ e.fields, '=' ∉ f.toList) :
    (ofNode e.expansion.node.tidy).paths refs = e.paths refs := by
  induction e using Element.structural with
  | phrase text => exact paths_ofNode_phrase text
  | oneOf alternatives ih =>
    rw [expansion, Expansion.node, Node.tidy, ofNode_oneOf, alternativeNodes_eq,
      ofNodes_tidyOfAll_map, paths, paths]
    apply pathsOfAny_map
    intro e member
    rw [paths_alternative]
    exact ih e member fun f written => plain f (mem_fieldsOfAll.mpr ⟨e, member, written⟩)
  | sequence parts ih =>
    rw [expansion, Expansion.node, Node.tidy, ofNode_item, partNodes_eq, ofNodes_tidyOfAll_map,
      paths, paths]
    apply pathsOfAll_map
    intro e member
    exact ih e member fun f written => plain f (mem_fieldsOfAll.mpr ⟨e, member, written⟩)
  | ruleRef rule => rw [expansion, Expansion.node, Node.tidy, ofNode_ruleRef]
  | repetition inner min max ih =>
    rw [expansion, Expansion.node, Node.tidy, ofNode_repetition, paths, paths, paths,
      paths_contents, ih plain]
  | tag t =>
    rw [expansion, Expansion.node, ofNode_tag (plain t.field (List.mem_singleton_self _))]

end Element

def RuleScope.read (name : String) : RuleScope :=
  if name = "public" then .shared else .internal

theorem RuleScope.read_name (s : RuleScope) : read s.name = s := by
  cases s <;> decide

namespace Rule

def ofNode (n : Node) : Rule :=
  ⟨n.value "id", .read (n.value "scope"), .sequence (Element.ofNodes n.children)⟩

theorem id_ofNode (r : Rule) : (ofNode r.node.tidy).id = r.id := by
  simp [ofNode, node, Node.tidy, Node.value, Node.attributes]

theorem scope_ofNode (r : Rule) : (ofNode r.node.tidy).scope = r.scope := by
  have scope : r.node.tidy.value "scope" = r.scope.name := by
    simp [node, Node.tidy, Node.value, Node.attributes]
  rw [ofNode, scope, RuleScope.read_name]

theorem alike_ofNode {r : Rule} (plain : ∀ f ∈ r.body.fields, '=' ∉ f.toList) :
    r.Alike (ofNode r.node.tidy) := by
  refine ⟨r.id_ofNode, ?_⟩
  intro refs
  show Element.pathsOfAll refs (Element.ofNodes (Node.tidyOfAll r.body.expansion.contents)) = _
  rw [Element.paths_contents, Element.paths_ofNode r.body plain]

end Rule

namespace Grammar

def ofNode (n : Node) : Grammar :=
  ⟨n.value "xml:lang", n.children.map Rule.ofNode, n.value "root"⟩

def ofDocument? (document : String) : Option Grammar :=
  (Xml.root? document).map ofNode

def fields (g : Grammar) : List String :=
  g.rules.flatMap (·.body.fields)

structure Agrees (g h : Grammar) : Prop where
  culture : g.culture = h.culture
  root : g.root = h.root
  rules : g.rules.map (fun r => (r.id, r.scope)) = h.rules.map (fun r => (r.id, r.scope))
  interpret : ∀ utterance, g.interpret utterance = h.interpret utterance

variable {g h k : Grammar}

theorem Agrees.symm (agree : g.Agrees h) : h.Agrees g :=
  ⟨agree.culture.symm, agree.root.symm, agree.rules.symm, fun u => (agree.interpret u).symm⟩

theorem Agrees.trans (left : g.Agrees h) (right : h.Agrees k) : g.Agrees k :=
  ⟨left.culture.trans right.culture, left.root.trans right.root, left.rules.trans right.rules,
    fun u => (left.interpret u).trans (right.interpret u)⟩

theorem rules_ofNode (g : Grammar) :
    (ofNode g.node.tidy).rules = g.rules.map fun r => Rule.ofNode r.node.tidy := by
  show (Node.tidyOfAll (g.rules.map (·.node))).map Rule.ofNode = _
  rw [Node.tidyOfAll_eq, List.map_map, List.map_map]
  rfl

/-- The document of a grammar shows a grammar that cannot be told apart from it. -/
theorem ofDocument?_srgs (plain : ∀ f ∈ g.fields, '=' ∉ f.toList) :
    ∃ h, ofDocument? g.srgs = some h ∧ h.Agrees g := by
  refine ⟨ofNode g.node.tidy, ?_, ?_⟩
  · rw [ofDocument?, srgs, Xml.root?_document g.named_node]
    rfl
  · have root : (ofNode g.node.tidy).root = g.root := by
      simp [ofNode, node, Node.tidy, Node.value, Node.attributes]
    constructor
    · simp [ofNode, node, Node.tidy, Node.value, Node.attributes]
    · exact root
    · rw [rules_ofNode, List.map_map]
      apply List.map_congr_left
      intro r _
      rw [Function.comp_apply, r.id_ofNode, r.scope_ofNode]
    · apply interpret_of_alike ?_ root
      rw [rules_ofNode, List.forall₂_map_right_iff, List.forall₂_same]
      intro r member
      exact Rule.alike_ofNode fun f written => plain f (List.mem_flatMap.mpr ⟨r, member, written⟩)

/-- The document of a grammar says all that can be told about it: grammars with the same document
have the same culture, root and rules, and every utterance means the same in both. -/
theorem agrees_of_srgs_eq (plain : ∀ f ∈ g.fields, '=' ∉ f.toList)
    (plain' : ∀ f ∈ h.fields, '=' ∉ f.toList) (same : g.srgs = h.srgs) : g.Agrees h := by
  obtain ⟨k, read, agrees⟩ := ofDocument?_srgs plain
  obtain ⟨k', read', agrees'⟩ := ofDocument?_srgs plain'
  have one : k = k' := by
    rw [same, read'] at read
    exact (Option.some.inj read).symm
  subst one
  exact agrees.symm.trans agrees'

def haltOrder (between : Element) : Grammar :=
  ⟨"en-US",
    [⟨"order", .shared,
      .sequence [.phrase "halt", between, .literalTag commandField "STOP \"ALL\""]⟩],
    "order"⟩

theorem agrees_of_srgs_eq_haltOrder :
    (haltOrder (.sequence [])).srgs = (haltOrder (.phrase "\n    ")).srgs ∧
      (haltOrder (.sequence [])).Agrees (haltOrder (.phrase "\n    ")) :=
  have same : (haltOrder (.sequence [])).srgs = (haltOrder (.phrase "\n    ")).srgs := by
    decide +kernel
  ⟨same, agrees_of_srgs_eq (by decide) (by decide) same⟩

end Grammar

end Callout
