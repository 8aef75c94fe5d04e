import Callout.Proofs.Xml.Markup

namespace Callout.Xml

inductive Gap where
  | layout (depth : Nat)
  | content (text : String)
  deriving DecidableEq, Repr

/-- A tag of a document, with what is in front of it. -/
structure Event where
  gap : Gap
  tag : Tag
  deriving DecidableEq, Repr

def Attribute.bare (a : Attribute) : Attribute :=
  ⟨a.name, ""⟩

namespace Node

mutual

def events (depth : Nat) : Node → List Event
  | text name attributes content =>
    [⟨.layout depth, .start name attributes⟩, ⟨.content content, .stop name⟩]
  | empty name attributes => [⟨.layout depth, .empty name attributes⟩]
  | element name attributes children =>
    ⟨.layout depth, .start name attributes⟩ ::
      (eventsOfAll (depth + 1) children ++ [⟨.layout depth, .stop name⟩])

def eventsOfAll (depth : Nat) : List Node → List Event
  | [] => []
  | n :: ns => n.events depth ++ eventsOfAll depth ns

def strings : Node → List String
  | text _ attributes content => attributes.map (·.value) ++ [content]
  | empty _ attributes => attributes.map (·.value)
  | element _ attributes children => attributes.map (·.value) ++ stringsOfAll children

def stringsOfAll : List Node → List String
  | [] => []
  | n :: ns => n.strings ++ stringsOfAll ns

def bare : Node → Node
  | text name attributes _ => text name (attributes.map Attribute.bare) ""
  | empty name attributes => empty name (attributes.map Attribute.bare)
  | element name attributes children =>
    element name (attributes.map Attribute.bare) (bareOfAll children)

def bareOfAll : List Node → List Node
  | [] => []
  | n :: ns => n.bare :: bareOfAll ns

def Named : Node → Prop
  | text name attributes _ | empty name attributes =>
    IsName name ∧ ∀ a ∈ attributes, IsName a.name
  | element name attributes children =>
    (IsName name ∧ ∀ a ∈ attributes, IsName a.name) ∧ AllNamed children

def AllNamed : List Node → Prop
  | [] => True
  | n :: ns => n.Named ∧ AllNamed ns

end

@[elab_as_elim]
theorem structural {motive : Node → Prop}
    (text : ∀ name attributes content, motive (.text name attributes content))
    (empty : ∀ name attributes, motive (.empty name attributes))
    (element : ∀ name attributes children, (∀ n ∈ children, motive n) →
      motive (.element name attributes children)) (n : Node) : motive n := by
  refine @Node.rec motive (fun ns => ∀ n ∈ ns, motive n) text empty element ?_ ?_ n
  · exact nofun
  · intro first others head tail n member
    rcases List.mem_cons.mp member with rfl | member
    · exact head
    · exact tail n member

theorem eventsOfAll_eq (depth : Nat) (ns : List Node) :
    eventsOfAll depth ns = ns.flatMap (events depth) := by
  induction ns with
  | nil => rfl
  | cons n ns ih => rw [eventsOfAll, ih, List.flatMap_cons]

theorem linesOfAll_eq (depth : Nat) (ns : List Node) :
    linesOfAll depth ns = ns.flatMap (lines depth) := by
  induction ns with
  | nil => rfl
  | cons n ns ih => rw [linesOfAll, ih, List.flatMap_cons]

theorem stringsOfAll_eq (ns : List Node) : stringsOfAll ns = ns.flatMap strings := by
  induction ns with
  | nil => rfl
  | cons n ns ih => rw [stringsOfAll, ih, List.flatMap_cons]

theorem bareOfAll_eq (ns : List Node) : bareOfAll ns = ns.map bare := by
  induction ns with
  | nil => rfl
  | cons n ns ih => rw [bareOfAll, ih, List.map_cons]

theorem allNamed_iff {ns : List Node} : AllNamed ns ↔ ∀ n ∈ ns, n.Named := by
  induction ns with
  | nil => simp [AllNamed]
  | cons n ns ih => rw [AllNamed, ih, List.forall_mem_cons]

end Node

/-- The names of the elements that are open after some tags, the innermost first, as long as every
end tag closes the innermost one. -/
def openAfter? : List String → List Tag → Option (List String)
  | names, [] => some names
  | names, .start name _ :: tags => openAfter? (name :: names) tags
  | names, .empty _ _ :: tags => openAfter? names tags
  | [], .stop _ :: _ => none
  | innermost :: names, .stop name :: tags =>
    if name = innermost then openAfter? names tags else none

/-- The tags of one element: its start tag, well nested tags, and its end tag. -/
def IsElement (tags : List Tag) : Prop :=
  ∃ name attributes inner, tags = .start name attributes :: (inner ++ [.stop name]) ∧
    openAfter? [] inner = some []

theorem openAfter?_events (n : Node) (depth : Nat) (names : List String) (rest : List Tag) :
    openAfter? names ((n.events depth).map (·.tag) ++ rest) = openAfter? names rest := by
  induction n using Node.structural generalizing depth names rest with
  | text name attributes content =>
    show openAfter? names (.start name attributes :: .stop name :: rest) = _
    rw [openAfter?, openAfter?, if_pos rfl]
  | empty name attributes =>
    show openAfter? names (.empty name attributes :: rest) = _
    rw [openAfter?]
  | element name attributes children ih =>
    have inside : ∀ (names : List String) (rest : List Tag), openAfter? names
        ((children.flatMap (Node.events (depth + 1))).map (·.tag) ++ rest) =
          openAfter? names rest := by
      intro names rest
      induction children with
      | nil => rfl
      | cons n ns ihs =>
        obtain ⟨first, others⟩ := List.forall_mem_cons.mp ih
        rw [List.flatMap_cons, List.map_append, List.append_assoc, first, ihs others]
    rw [Node.events, Node.eventsOfAll_eq, List.map_cons, List.map_append, List.cons_append,
      List.append_assoc, openAfter?, inside]
    show openAfter? (name :: names) (.stop name :: rest) = _
    rw [openAfter?, if_pos rfl]

theorem openAfter?_eventsOfAll (ns : List Node) (depth : Nat) (names : List String) :
    openAfter? names ((Node.eventsOfAll depth ns).map (·.tag)) = some names := by
  induction ns with
  | nil => cases names <;> rfl
  | cons n ns ih => rw [Node.eventsOfAll, List.map_append, openAfter?_events, ih]

theorem isElement_events (name : String) (attributes : List Attribute) (children : List Node)
    (depth : Nat) :
    IsElement (((Node.element name attributes children).events depth).map (·.tag)) := by
  refine ⟨name, attributes, (Node.eventsOfAll (depth + 1) children).map (·.tag), ?_, ?_⟩
  · rw [Node.events, List.map_cons, List.map_append]
    rfl
  · exact openAfter?_eventsOfAll children (depth + 1) []

def Attribute.escaped (a : Attribute) : Attribute :=
  ⟨a.name, escapeAttribute a.value⟩

def Attribute.unescaped (a : Attribute) : Attribute :=
  ⟨a.name, .ofList (unescape a.value.toList)⟩

namespace Tag

def map (f : Attribute → Attribute) : Tag → Tag
  | start name attributes => start name (attributes.map f)
  | empty name attributes => empty name (attributes.map f)
  | stop name => stop name

def values : Tag → List String
  | start _ attributes | empty _ attributes => attributes.map (·.value)
  | stop _ => []

def Named : Tag → Prop
  | start name attributes | empty name attributes => IsName name ∧ ∀ a ∈ attributes, IsName a.name
  | stop name => IsName name

theorem map_map (f g : Attribute → Attribute) (t : Tag) : (t.map f).map g = t.map (g ∘ f) := by
  cases t <;> simp [map]

end Tag

theorem openAfter?_map (f : Attribute → Attribute) (names : List String) (tags : List Tag) :
    openAfter? names (tags.map (Tag.map f)) = openAfter? names tags := by
  induction tags generalizing names with
  | nil => cases names <;> rfl
  | cons t tags ih =>
    cases t with
    | start name attributes | empty name attributes => exact ih _
    | stop name =>
      cases names with
      | nil => rfl
      | cons innermost names => simp only [List.map_cons, Tag.map, openAfter?, ih]

theorem IsElement.map {tags : List Tag} (element : IsElement tags) (f : Attribute → Attribute) :
    IsElement (tags.map (Tag.map f)) := by
  obtain ⟨name, attributes, inner, rfl, nested⟩ := element
  refine ⟨name, attributes.map f, inner.map (Tag.map f), by simp [Tag.map], ?_⟩
  rw [openAfter?_map, nested]

def Gap.text : Gap → String
  | layout depth => "\n" ++ String.join (List.replicate depth "  ")
  | content text => escapeText text

def Event.piece (e : Event) : Piece :=
  ⟨e.gap.text, e.tag.map Attribute.escaped⟩

def Event.strings (e : Event) : List String :=
  match e.gap with
  | .layout _ => e.tag.values
  | .content text => text :: e.tag.values

/-- A piece that cannot be mistaken for other markup: no text or value holds any, and every
ampersand in them starts one of the predefined entities. -/
structure Piece.Escaped (p : Piece) : Prop where
  text : Xml.Escaped p.text.toList
  values : ∀ v ∈ p.tag.values, Xml.Escaped v.toList ∧ '"' ∉ v.toList

/-- A piece from which an event can be read: its values and its content are those of the event once
the entities are replaced, and what is in front of a tag on a new line is blank. -/
structure Piece.Shows (p : Piece) (e : Event) : Prop where
  tag : p.tag.map Attribute.unescaped = e.tag
  gap : match e.gap with
    | .layout _ => ∀ c ∈ p.text.toList, c = '\n' ∨ c = ' '
    | .content text => unescape p.text.toList = text.toList

theorem Gap.blank_layout (depth : Nat) :
    ∀ c ∈ (Gap.layout depth).text.toList, c = '\n' ∨ c = ' ' := by
  intro c member
  simp only [text, String.toList_append, String.toList_join, List.mem_append,
    List.mem_flatMap] at member
  rcases member with member | ⟨blanks, copy, member⟩
  · left
    simpa using member
  · right
    obtain rfl := List.eq_of_mem_replicate copy
    simpa using member

theorem Gap.escaped_text (gap : Gap) : Escaped gap.text.toList := by
  cases gap with
  | layout depth =>
    have plain : ∀ c ∈ (layout depth).text.toList, c ≠ '&' ∧ c ≠ '<' ∧ c ≠ '>' := by
      intro c member
      rcases blank_layout depth c member with rfl | rfl <;> decide
    have escaped := Escaped.nil.append plain
    rwa [List.append_nil] at escaped
  | content text => exact escaped_escapeText text

theorem Attribute.unescaped_escaped (a : Attribute) : a.escaped.unescaped = a := by
  unfold escaped unescaped
  simp only [unescape_escapeAttribute, String.ofList_toList]

theorem Tag.mem_values_escaped {t : Tag} {v : String} (member : v ∈ (t.map .escaped).values) :
    ∃ original, v = escapeAttribute original := by
  cases t with
  | start name attributes | empty name attributes =>
    simp only [map, values, List.map_map, List.mem_map] at member
    obtain ⟨a, _, rfl⟩ := member
    exact ⟨a.value, rfl⟩
  | stop name => cases member

theorem Event.piece_escaped (e : Event) : e.piece.Escaped := by
  constructor
  · exact e.gap.escaped_text
  · intro v member
    obtain ⟨original, rfl⟩ := Tag.mem_values_escaped member
    exact ⟨escaped_escapeAttribute original, quote_not_mem_escapeAttribute original⟩

theorem Event.piece_shows (e : Event) : e.piece.Shows e := by
  constructor
  · have back : Attribute.unescaped ∘ Attribute.escaped = id := by
      funext a
      exact a.unescaped_escaped
    rw [piece, Tag.map_map, back]
    cases e.tag <;> simp [Tag.map]
  · unfold piece
    cases e.gap with
    | layout depth => exact Gap.blank_layout depth
    | content text => exact unescape_escapeText text

theorem Event.piece_readable {e : Event} (named : e.tag.Named) : e.piece.Readable := by
  constructor
  · exact e.gap.escaped_text.noLess
  · unfold piece
    have quoted (attributes : List Attribute) (named : ∀ a ∈ attributes, IsName a.name) :
        ∀ a ∈ attributes.map Attribute.escaped, a.Readable := by
      intro a member
      obtain ⟨a, own, rfl⟩ := List.mem_map.mp member
      exact ⟨named a own, quote_not_mem_escapeAttribute a.value⟩
    cases tag : e.tag with
    | start name attributes | empty name attributes =>
      rw [tag] at named
      exact ⟨named.1, quoted attributes named.2⟩
    | stop name =>
      rw [tag] at named
      exact named

def Line.written (l : Line) : List Char :=
  (Gap.layout l.depth).text.toList ++ l.text.toList

theorem toList_join_render (ls : List Line) :
    '\n' :: (String.join (ls.map (·.render))).toList = ls.flatMap Line.written ++ ['\n'] := by
  induction ls with
  | nil => rfl
  | cons l ls ih =>
    simp only [List.map_cons, String.join_cons, String.toList_append, List.flatMap_cons,
      List.append_assoc, ← ih]
    simp [Line.render, Line.written, Gap.text]

theorem written_tagText (name : String) (attributes : List Attribute) :
    (tagText name attributes).toList =
      name.toList ++ (attributes.map Attribute.escaped).flatMap Attribute.written := by
  rw [tagText, String.toList_append, String.toList_join, List.flatMap_map, List.flatMap_map]
  congr 1
  apply List.flatMap_congr
  intro a _
  simp [Attribute.render, Attribute.written, Attribute.escaped]

theorem written_lines (n : Node) (depth : Nat) :
    (n.lines depth).flatMap Line.written =
      ((n.events depth).map Event.piece).flatMap Piece.written := by
  induction n using Node.structural generalizing depth with
  | text name attributes content =>
    simp [Node.lines, Node.events, Line.written, Piece.written, Event.piece, Tag.map, Tag.written,
      Gap.text, written_tagText]
  | empty name attributes =>
    simp [Node.lines, Node.events, Line.written, Piece.written, Event.piece, Tag.map, Tag.written,
      Gap.text, written_tagText]
  | element name attributes children ih =>
    have inside : (Node.linesOfAll (depth + 1) children).flatMap Line.written =
        ((Node.eventsOfAll (depth + 1) children).map Event.piece).flatMap Piece.written := by
      rw [Node.linesOfAll_eq, Node.eventsOfAll_eq, List.flatMap_assoc, List.map_flatMap,
        List.flatMap_assoc]
      exact List.flatMap_congr fun n member => ih n member (depth + 1)
    rw [Node.lines, Node.events]
    simp only [List.map_cons, List.map_append, List.flatMap_cons, List.flatMap_append, inside]
    simp [Line.written, Piece.written, Event.piece, Tag.map, Tag.written, Gap.text,
      written_tagText]

def declaration : String :=
  "<?xml version=\"1.0\" encoding=\"UTF-8\"?>"

theorem document_eq (root : Node) : ∃ body, root.document = declaration ++ body ∧
    body.toList = ((root.events 0).map Event.piece).flatMap Piece.written ++ ['\n'] := by
  refine ⟨"\n" ++ String.join ((root.lines 0).map (·.render)), ?_, ?_⟩
  · have first : "<?xml version=\"1.0\" encoding=\"UTF-8\"?>\n" = declaration ++ "\n" := by
      decide +kernel
    unfold Node.document
    rw [first]
    exact String.append_assoc
  · rw [← written_lines, ← toList_join_render]
    simp

theorem named_events {n : Node} (named : n.Named) (depth : Nat) :
    ∀ e ∈ n.events depth, e.tag.Named := by
  induction n using Node.structural generalizing depth with
  | text name attributes content =>
    simpa [Node.events, Tag.Named] using ⟨named, named.1⟩
  | empty name attributes =>
    intro e member
    obtain rfl := List.mem_singleton.mp member
    exact named
  | element name attributes children ih =>
    obtain ⟨named, inside⟩ := named
    rw [Node.events, Node.eventsOfAll_eq]
    intro e member
    rcases List.mem_cons.mp member with rfl | member
    · exact named
    · rcases List.mem_append.mp member with member | member
      · obtain ⟨n, child, member⟩ := List.mem_flatMap.mp member
        exact ih n child (Node.allNamed_iff.mp inside n child) (depth + 1) e member
      · obtain rfl := List.mem_singleton.mp member
        exact named.1

/-- A document is read back as its events. -/
theorem pieces?_document {root : Node} (named : root.Named) :
    ∃ body, root.document = declaration ++ body ∧
      pieces? body.toList = some ((root.events 0).map Event.piece) := by
  obtain ⟨body, document, written⟩ := document_eq root
  refine ⟨body, document, ?_⟩
  rw [written]
  apply pieces?_written
  · intro p member
    obtain ⟨e, happens, rfl⟩ := List.mem_map.mp member
    exact Event.piece_readable (named_events named 0 e happens)
  · decide

theorem strings_events (n : Node) (depth : Nat) :
    (n.events depth).flatMap Event.strings = n.strings := by
  induction n using Node.structural generalizing depth with
  | text name attributes content => simp [Node.events, Event.strings, Tag.values, Node.strings]
  | empty name attributes => simp [Node.events, Event.strings, Tag.values, Node.strings]
  | element name attributes children ih =>
    have inside : (Node.eventsOfAll (depth + 1) children).flatMap Event.strings =
        Node.stringsOfAll children := by
      rw [Node.eventsOfAll_eq, Node.stringsOfAll_eq, List.flatMap_assoc]
      exact List.flatMap_congr fun n member => ih n member (depth + 1)
    simp [Node.events, Event.strings, Tag.values, Node.strings, inside]

theorem bare_events (n : Node) (depth : Nat) :
    (n.bare.events depth).map (·.tag) = (n.events depth).map (·.tag.map Attribute.bare) := by
  induction n using Node.structural generalizing depth with
  | text name attributes content => simp [Node.events, Node.bare, Tag.map]
  | empty name attributes => simp [Node.events, Node.bare, Tag.map]
  | element name attributes children ih =>
    have inside : (Node.eventsOfAll (depth + 1) (Node.bareOfAll children)).map (·.tag) =
        (Node.eventsOfAll (depth + 1) children).map (·.tag.map Attribute.bare) := by
      rw [Node.bareOfAll_eq, Node.eventsOfAll_eq, Node.eventsOfAll_eq, List.flatMap_map,
        List.map_flatMap, List.map_flatMap]
      exact List.flatMap_congr fun n member => ih n member (depth + 1)
    simp only [Node.events, Node.bare, List.map_cons, List.map_append, inside]
    simp [Tag.map]

end Callout.Xml
