import Callout.Grammar.Srgs
import Callout.Proofs.Grammar.Derivation
import Callout.Proofs.Xml.Document
import Mathlib.Data.List.Forall2

namespace Callout

open Xml (Node IsName)

namespace Element

mutual

def strings : Element → List String
  | phrase text => [text]
  | oneOf alternatives => stringsOfAll alternatives
  | sequence parts => stringsOfAll parts
  | ruleRef rule => ["#" ++ rule]
  | repetition inner min max => repeatRange min max :: inner.strings
  | tag t => [t.script]

def stringsOfAll : List Element → List String
  | [] => []
  | e :: es => e.strings ++ stringsOfAll es

def shape : Element → Element
  | phrase _ => phrase ""
  | oneOf alternatives => oneOf (shapeOfAll alternatives)
  | sequence parts => sequence (shapeOfAll parts)
  | ruleRef _ => ruleRef ""
  | repetition inner _ _ => repetition inner.shape 0 none
  | tag _ => literalTag "" ""

def shapeOfAll : List Element → List Element
  | [] => []
  | e :: es => e.shape :: shapeOfAll es

end

theorem partNodes_eq (es : List Element) : partNodes es = es.map (·.expansion.node) := by
  induction es with
  | nil => rfl
  | cons e es ih => rw [partNodes, ih, List.map_cons]

theorem alternativeNodes_eq (es : List Element) :
    alternativeNodes es = es.map (·.expansion.alternative) := by
  induction es with
  | nil => rfl
  | cons e es ih => rw [alternativeNodes, ih, List.map_cons]

theorem stringsOfAll_eq (es : List Element) : stringsOfAll es = es.flatMap strings := by
  induction es with
  | nil => rfl
  | cons e es ih => rw [stringsOfAll, ih, List.flatMap_cons]

theorem shapeOfAll_eq (es : List Element) : shapeOfAll es = es.map shape := by
  induction es with
  | nil => rfl
  | cons e es ih => rw [shapeOfAll, ih, List.map_cons]

end Element

namespace Expansion

def strings : Expansion → List String
  | words text => [text]
  | parts nodes => Node.stringsOfAll nodes
  | single node => node.strings

def bare : Expansion → Expansion
  | words _ => words ""
  | parts nodes => parts (Node.bareOfAll nodes)
  | single node => single node.bare

def Named : Expansion → Prop
  | words _ => True
  | parts nodes => Node.AllNamed nodes
  | single node => node.Named

variable (x : Expansion)

theorem strings_node : x.node.strings = x.strings := by
  cases x <;> simp [node, strings, Node.strings]

theorem strings_contents : Node.stringsOfAll x.contents = x.strings := by
  cases x <;> simp [contents, node, strings, Node.strings, Node.stringsOfAll]

theorem strings_alternative : x.alternative.strings = x.strings := by
  cases x <;> simp [alternative, node, strings, Node.strings, Node.stringsOfAll]

theorem bare_node : x.node.bare = x.bare.node := by
  cases x <;> rfl

theorem bare_contents : Node.bareOfAll x.contents = x.bare.contents := by
  cases x <;> rfl

theorem bare_alternative : x.alternative.bare = x.bare.alternative := by
  cases x <;> rfl

variable {x}

theorem isName_item : IsName "item" := by decide

theorem Named.node (named : x.Named) : x.node.Named := by
  cases x with
  | words text => exact ⟨isName_item, nofun⟩
  | parts nodes => exact ⟨⟨isName_item, nofun⟩, named⟩
  | single node => exact named

theorem Named.contents (named : x.Named) : Node.AllNamed x.contents := by
  cases x with
  | words text => exact ⟨⟨isName_item, nofun⟩, trivial⟩
  | parts nodes => exact named
  | single node => exact ⟨named, trivial⟩

theorem Named.alternative (named : x.Named) : x.alternative.Named := by
  cases x with
  | words text => exact ⟨isName_item, nofun⟩
  | parts nodes => exact ⟨⟨isName_item, nofun⟩, named⟩
  | single node => exact ⟨⟨isName_item, nofun⟩, named, trivial⟩

end Expansion

namespace Element

theorem strings_expansion (e : Element) : e.expansion.strings = e.strings := by
  induction e using Element.structural with
  | phrase text => rfl
  | oneOf alternatives ih =>
    have inside : Node.stringsOfAll (alternativeNodes alternatives) =
        stringsOfAll alternatives := by
      rw [alternativeNodes_eq, Node.stringsOfAll_eq, stringsOfAll_eq, List.flatMap_map]
      apply List.flatMap_congr
      intro e member
      rw [Expansion.strings_alternative, ih e member]
    simp [expansion, Expansion.strings, Node.strings, strings, inside]
  | sequence parts ih =>
    rw [expansion, Expansion.strings, strings, partNodes_eq, Node.stringsOfAll_eq, stringsOfAll_eq,
      List.flatMap_map]
    apply List.flatMap_congr
    intro e member
    rw [Expansion.strings_node, ih e member]
  | ruleRef rule => rfl
  | repetition inner min max ih =>
    rw [expansion, Expansion.strings, Node.strings, Expansion.strings_contents, ih]
    rfl
  | tag t => rfl

theorem bare_expansion (e : Element) : e.shape.expansion.bare = e.expansion.bare := by
  induction e using Element.structural with
  | phrase text => rfl
  | oneOf alternatives ih =>
    have inside : Node.bareOfAll (alternativeNodes (shapeOfAll alternatives)) =
        Node.bareOfAll (alternativeNodes alternatives) := by
      rw [alternativeNodes_eq, alternativeNodes_eq, shapeOfAll_eq, Node.bareOfAll_eq,
        Node.bareOfAll_eq, List.map_map, List.map_map, List.map_map]
      apply List.map_congr_left
      intro e member
      simp only [Function.comp_apply, Expansion.bare_alternative, ih e member]
    simp [shape, expansion, Expansion.bare, Node.bare, inside]
  | sequence parts ih =>
    rw [shape, expansion, expansion, Expansion.bare, Expansion.bare, partNodes_eq, partNodes_eq,
      shapeOfAll_eq, Node.bareOfAll_eq, Node.bareOfAll_eq, List.map_map, List.map_map, List.map_map]
    congr 1
    apply List.map_congr_left
    intro e member
    simp only [Function.comp_apply, Expansion.bare_node, ih e member]
  | ruleRef rule => rfl
  | repetition inner min max ih =>
    rw [shape, expansion, expansion, Expansion.bare, Expansion.bare, Node.bare, Node.bare,
      Expansion.bare_contents, Expansion.bare_contents, ih]
    rfl
  | tag t => rfl

theorem named_expansion (e : Element) : e.expansion.Named := by
  induction e using Element.structural with
  | phrase text => trivial
  | oneOf alternatives ih =>
    refine ⟨⟨by decide, nofun⟩, ?_⟩
    rw [alternativeNodes_eq, Node.allNamed_iff]
    intro n member
    obtain ⟨e, own, rfl⟩ := List.mem_map.mp member
    exact (ih e own).alternative
  | sequence parts ih =>
    rw [expansion, Expansion.Named, partNodes_eq, Node.allNamed_iff]
    intro n member
    obtain ⟨e, own, rfl⟩ := List.mem_map.mp member
    exact (ih e own).node
  | ruleRef rule => exact ⟨by decide, by simpa using (by decide : IsName "uri")⟩
  | repetition inner min max ih =>
    exact ⟨⟨by decide, by simpa using (by decide : IsName "repeat")⟩, ih.contents⟩
  | tag t => exact ⟨by decide, nofun⟩

end Element

namespace Rule

def strings (r : Rule) : List String :=
  r.id :: r.scope.name :: r.body.strings

def shape (r : Rule) : Rule :=
  ⟨"", .shared, r.body.shape⟩

theorem strings_node (r : Rule) : r.node.strings = r.strings := by
  rw [node, Node.strings, Expansion.strings_contents, Element.strings_expansion]
  rfl

theorem bare_node (r : Rule) : r.shape.node.bare = r.node.bare := by
  rw [node, node, Node.bare, Node.bare, Expansion.bare_contents, Expansion.bare_contents, shape,
    Element.bare_expansion]
  rfl

theorem named_node (r : Rule) : r.node.Named := by
  have id : IsName "id" := by decide
  have scope : IsName "scope" := by decide
  exact ⟨⟨by decide, by simp [id, scope]⟩, r.body.named_expansion.contents⟩

end Rule

namespace Grammar

def strings (g : Grammar) : List String :=
  ["http://www.w3.org/2001/06/grammar", "1.0", g.culture, g.root, "semantics/1.0"] ++
    g.rules.flatMap Rule.strings

def shape (g : Grammar) : Grammar :=
  ⟨"", g.rules.map Rule.shape, ""⟩

theorem strings_node (g : Grammar) : g.node.strings = g.strings := by
  rw [node, Node.strings, Node.stringsOfAll_eq, List.flatMap_map]
  simp only [Rule.strings_node]
  rfl

theorem bare_node (g : Grammar) : g.shape.node.bare = g.node.bare := by
  rw [node, node, shape, Node.bare, Node.bare, Node.bareOfAll_eq, Node.bareOfAll_eq, List.map_map,
    List.map_map, List.map_map]
  simp only [Function.comp_def, Rule.bare_node]
  rfl

theorem named_node (g : Grammar) : g.node.Named := by
  refine ⟨⟨by decide, ?_⟩, ?_⟩
  · simp only [List.forall_mem_cons]
    exact ⟨by decide, by decide, by decide, by decide, by decide, nofun⟩
  · rw [Node.allNamed_iff]
    intro n member
    obtain ⟨r, _, rfl⟩ := List.mem_map.mp member
    exact r.named_node

/-- Behind its declaration the document of a grammar is one well nested element. Its tags are those
of any grammar of the same shape; no text of the grammar can be mistaken for markup; and what is
read from the document, once the entities are replaced, are the texts of the grammar in their order.
-/
theorem srgs_wellNested (g : Grammar) :
    ∃ body pieces, g.srgs = Xml.declaration ++ body ∧ Xml.pieces? body.toList = some pieces ∧
      Xml.IsElement (pieces.map (·.tag)) ∧
      pieces.map (·.tag.map Xml.Attribute.bare) =
        (g.shape.node.events 0).map (·.tag.map Xml.Attribute.bare) ∧
      (∀ p ∈ pieces, p.Escaped) ∧
      List.Forall₂ Xml.Piece.Shows pieces (g.node.events 0) ∧
      (g.node.events 0).flatMap Xml.Event.strings = g.strings := by
  obtain ⟨body, document, read⟩ := Xml.pieces?_document g.named_node
  refine ⟨body, _, document, read, ?_, ?_, ?_, ?_, ?_⟩
  · have element := (Xml.isElement_events _ _ _ 0 : Xml.IsElement ((g.node.events 0).map (·.tag)))
    have escaped := element.map Xml.Attribute.escaped
    rw [List.map_map] at escaped ⊢
    exact escaped
  · rw [List.map_map, ← Xml.bare_events, bare_node, Xml.bare_events]
    apply List.map_congr_left
    intro e _
    exact Xml.Tag.map_map _ _ e.tag
  · intro p member
    obtain ⟨e, _, rfl⟩ := List.mem_map.mp member
    exact e.piece_escaped
  · rw [List.forall₂_map_left_iff, List.forall₂_same]
    exact fun e _ => e.piece_shows
  · rw [Xml.strings_events, strings_node]

end Grammar

end Callout
