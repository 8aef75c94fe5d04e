import Callout.Proofs.Xml.Document

namespace Callout.Xml

def isLayout (c : Char) : Bool :=
  c == '\n' || c == ' '

namespace Node

def attributes : Node → List Attribute
  | text _ attributes _ | empty _ attributes | element _ attributes _ => attributes

def children : Node → List Node
  | text .. | empty .. => []
  | element _ _ children => children

def value (n : Node) (name : String) : String :=
  ((n.attributes.find? (·.name == name)).map (·.value)).getD ""

def closed (name : String) (attributes : List Attribute) (children : List Node)
    (content : List Char) : Node :=
  if children.isEmpty && !content.all isLayout then .text name attributes (.ofList content)
  else .element name attributes children

mutual

def tidy : Node → Node
  | text name attributes content => closed name attributes [] content.toList
  | empty name attributes => empty name attributes
  | element name attributes children => element name attributes (tidyOfAll children)

def tidyOfAll : List Node → List Node
  | [] => []
  | n :: ns => n.tidy :: tidyOfAll ns

end

theorem tidyOfAll_eq (ns : List Node) : tidyOfAll ns = ns.map tidy := by
  induction ns with
  | nil => rfl
  | cons n ns ih => rw [tidyOfAll, ih, List.map_cons]

variable {name : String} {attributes : List Attribute} {children : List Node}

theorem closed_of_layout {content : List Char} (layout : ∀ c ∈ content, isLayout c = true) :
    closed name attributes children content = .element name attributes children := by
  have blank : content.all isLayout = true := List.all_eq_true.mpr layout
  rw [closed, blank, Bool.not_true, Bool.and_false, if_neg Bool.false_ne_true]

theorem closed_of_content {content : String} (written : content.toList.all isLayout = false) :
    closed name attributes [] content.toList = .text name attributes content := by
  rw [closed, written, List.isEmpty_nil, Bool.not_false, Bool.and_true, if_pos rfl,
    String.ofList_toList]

end Node

structure Frame where
  name : String
  attributes : List Attribute
  before : List Node

/-- The elements of some pieces, behind the elements that have been read in the innermost of the
open ones already. An end tag has to close that one. -/
def elements? : List Piece → List Frame → List Node → Option (List Node)
  | [], [], nodes => some nodes
  | [], _ :: _, _ => none
  | ⟨_, .start name attributes⟩ :: pieces, frames, nodes =>
    elements? pieces (⟨name, attributes.map Attribute.unescaped, nodes⟩ :: frames) []
  | ⟨_, .empty name attributes⟩ :: pieces, frames, nodes =>
    elements? pieces frames (nodes ++ [.empty name (attributes.map Attribute.unescaped)])
  | ⟨_, .stop _⟩ :: _, [], _ => none
  | ⟨content, .stop name⟩ :: pieces, f :: frames, nodes =>
    if name = f.name then
      elements? pieces frames
        (f.before ++ [.closed name f.attributes nodes (unescape content.toList)])
    else none

def root? (document : String) : Option Node := do
  let (_, body) ← Text.Parser.literal declaration document.toList
  let pieces ← pieces? body
  let [root] ← elements? pieces [] [] | none
  return root

theorem map_unescaped_map_escaped (attributes : List Attribute) :
    (attributes.map Attribute.escaped).map Attribute.unescaped = attributes := by
  rw [List.map_map]
  exact List.map_id'' Attribute.unescaped_escaped attributes

theorem unescape_of_layout {cs : List Char} (layout : ∀ c ∈ cs, isLayout c = true) :
    unescape cs = cs := by
  induction cs with
  | nil => rfl
  | cons c cs ih =>
    obtain ⟨first, others⟩ := List.forall_mem_cons.mp layout
    have amp : c ≠ '&' := by
      rintro rfl
      exact absurd first (by decide)
    rw [unescape_cons amp, ih others]

theorem Gap.isLayout_of_mem (depth : Nat) :
    ∀ c ∈ (Gap.layout depth).text.toList, isLayout c = true := by
  intro c member
  rcases Gap.blank_layout depth c member with rfl | rfl <;> decide

section

variable (gap : Gap) (name : String) (attributes : List Attribute) (rest : List Piece)
  (frames : List Frame) (nodes : List Node)

theorem elements?_start :
    elements? (Event.piece ⟨gap, .start name attributes⟩ :: rest) frames nodes =
      elements? rest (⟨name, attributes, nodes⟩ :: frames) [] := by
  show elements? rest (⟨name, (attributes.map Attribute.escaped).map Attribute.unescaped, nodes⟩ ::
    frames) [] = _
  rw [map_unescaped_map_escaped]

theorem elements?_empty :
    elements? (Event.piece ⟨gap, .empty name attributes⟩ :: rest) frames nodes =
      elements? rest frames (nodes ++ [.empty name attributes]) := by
  show elements? rest frames (nodes ++ [.empty name ((attributes.map Attribute.escaped).map
    Attribute.unescaped)]) = _
  rw [map_unescaped_map_escaped]

theorem elements?_stop (before : List Node) :
    elements? (Event.piece ⟨gap, .stop name⟩ :: rest) (⟨name, attributes, before⟩ :: frames) nodes =
      elements? rest frames
        (before ++ [.closed name attributes nodes (unescape gap.text.toList)]) :=
  if_pos rfl

end

/-- The pieces of an element add it to what has been read, whatever is open and whatever follows. -/
theorem elements?_events (n : Node) (depth : Nat) (rest : List Piece) (frames : List Frame)
    (nodes : List Node) :
    elements? ((n.events depth).map Event.piece ++ rest) frames nodes =
      elements? rest frames (nodes ++ [n.tidy]) := by
  induction n using Node.structural generalizing depth rest frames nodes with
  | text name attributes content =>
    rw [Node.events, List.map_cons, List.map_cons, List.map_nil, List.cons_append,
      List.cons_append, List.nil_append, elements?_start, elements?_stop, Gap.text,
      unescape_escapeText, Node.tidy]
  | empty name attributes =>
    rw [Node.events, List.map_cons, List.map_nil, List.cons_append, List.nil_append,
      elements?_empty, Node.tidy]
  | element name attributes children ih =>
    have inside : ∀ (rest : List Piece) (frames : List Frame) (nodes : List Node),
        elements? ((children.flatMap (Node.events (depth + 1))).map Event.piece ++ rest) frames
          nodes = elements? rest frames (nodes ++ children.map Node.tidy) := by
      intro rest frames nodes
      induction children generalizing nodes with
      | nil => rw [List.flatMap_nil, List.map_nil, List.map_nil, List.nil_append, List.append_nil]
      | cons n ns ihs =>
        obtain ⟨first, others⟩ := List.forall_mem_cons.mp ih
        rw [List.flatMap_cons, List.map_append, List.append_assoc, first, ihs others,
          List.append_assoc, List.map_cons, List.singleton_append]
    have layout := Gap.isLayout_of_mem depth
    rw [Node.events, Node.eventsOfAll_eq, List.map_cons, List.map_append, List.cons_append,
      List.append_assoc, elements?_start, inside, List.map_cons, List.map_nil, List.cons_append,
      List.nil_append, List.nil_append, elements?_stop, unescape_of_layout layout,
      Node.closed_of_layout layout, Node.tidy, Node.tidyOfAll_eq]

theorem root?_document {root : Node} (named : root.Named) :
    root? root.document = some root.tidy := by
  obtain ⟨body, document, read⟩ := pieces?_document named
  have elements : elements? ((root.events 0).map Event.piece) [] [] = some [root.tidy] := by
    have all := elements?_events root 0 [] [] []
    rwa [List.append_nil] at all
  have behind := Text.Parser.literal_append declaration body.toList
  simp only [root?, document, String.toList_append, behind, Option.bind_eq_bind, Option.bind_some,
    read, elements]
  rfl

end Callout.Xml
