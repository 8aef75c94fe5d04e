namespace Callout.Xml

structure Attribute where
  name : String
  value : String
  deriving DecidableEq, Repr

inductive Node where
  | text (name : String) (attributes : List Attribute) (content : String)
  | empty (name : String) (attributes : List Attribute)
  | element (name : String) (attributes : List Attribute) (children : List Node)
  deriving Repr

def escapeTextChar (c : Char) : List Char :=
  if c = '&' then "&amp;".toList
  else if c = '<' then "&lt;".toList
  else if c = '>' then "&gt;".toList
  else [c]

def escapeAttributeChar (c : Char) : List Char :=
  if c = '"' then "&quot;".toList
  else if c = '\x27' then "&apos;".toList
  else escapeTextChar c

def escapeText (s : String) : String :=
  .ofList (s.toList.flatMap escapeTextChar)

def escapeAttribute (s : String) : String :=
  .ofList (s.toList.flatMap escapeAttributeChar)

def Attribute.render (a : Attribute) : String :=
  " " ++ a.name ++ "=\"" ++ escapeAttribute a.value ++ "\""

def tagText (name : String) (attributes : List Attribute) : String :=
  name ++ String.join (attributes.map (·.render))

structure Line where
  depth : Nat
  text : String
  deriving DecidableEq, Repr

def Line.render (l : Line) : String :=
  String.join (List.replicate l.depth "  ") ++ l.text ++ "\n"

namespace Node

mutual

def lines (depth : Nat) : Node → List Line
  | text name attributes content =>
    [⟨depth, "<" ++ tagText name attributes ++ ">" ++ escapeText content ++ "</" ++ name ++ ">"⟩]
  | empty name attributes => [⟨depth, "<" ++ tagText name attributes ++ "/>"⟩]
  | element name attributes children =>
    ⟨depth, "<" ++ tagText name attributes ++ ">"⟩ ::
      (linesOfAll (depth + 1) children ++ [⟨depth, "</" ++ name ++ ">"⟩])

def linesOfAll (depth : Nat) : List Node → List Line
  | [] => []
  | n :: ns => n.lines depth ++ linesOfAll depth ns

end

def document (root : Node) : String :=
  "<?xml version=\"1.0\" encoding=\"UTF-8\"?>\n" ++ String.join ((root.lines 0).map (·.render))

end Node

end Callout.Xml
