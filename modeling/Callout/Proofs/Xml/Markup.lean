import Callout.Proofs.Text.Parser
import Callout.Proofs.Xml.Entities
import Callout.Text.Space

namespace Callout.Xml

inductive Tag where
  | start (name : String) (attributes : List Attribute)
  | empty (name : String) (attributes : List Attribute)
  | stop (name : String)
  deriving DecidableEq, Repr

structure Piece where
  text : String
  tag : Tag
  deriving DecidableEq, Repr

def isNameChar (c : Char) : Bool :=
  c.isAlphanum || c == ':' || c == '-'

open Text (Parser)

def readName : Parser String := do
  let cs ← Parser.charsWhile1 isNameChar
  return .ofList cs

def readAttribute : Parser Attribute := do
  Parser.literal " "
  let n ← readName
  Parser.literal "=\""
  let value ← Parser.charsWhile (· != '"')
  Parser.literal "\""
  return ⟨n, .ofList value⟩

def readEnd : Parser Tag := do
  Parser.literal "</"
  let n ← readName
  Parser.literal ">"
  return .stop n

def readClose (n : String) (attributes : List Attribute) : Parser Tag :=
  Parser.firstOf
    [do
      Parser.literal ">"
      return .start n attributes,
     do
      Parser.literal "/>"
      return .empty n attributes]

def readStart : Parser Tag := do
  Parser.literal "<"
  let n ← readName
  let attributes ← Parser.many readAttribute
  readClose n attributes

def readPiece : Parser Piece := do
  let text ← Parser.charsWhile (· != '<')
  let tag ← Parser.firstOf [readEnd, readStart]
  return ⟨.ofList text, tag⟩

/-- The pieces of a text, if it consists of them with nothing but white space behind. -/
def pieces? (cs : List Char) : Option (List Piece) :=
  match Parser.many readPiece cs with
  | some (pieces, rest) => if rest.all Text.isSpace then some pieces else none
  | none => none

def Attribute.written (a : Attribute) : List Char :=
  ' ' :: (a.name.toList ++ '=' :: '"' :: (a.value.toList ++ ['"']))

def Tag.written : Tag → List Char
  | start name attributes =>
    '<' :: (name.toList ++ (attributes.flatMap Attribute.written ++ ['>']))
  | empty name attributes =>
    '<' :: (name.toList ++ (attributes.flatMap Attribute.written ++ ['/', '>']))
  | stop name => '<' :: '/' :: (name.toList ++ ['>'])

def Piece.written (p : Piece) : List Char :=
  p.text.toList ++ p.tag.written

def IsName (s : String) : Prop :=
  s.toList ≠ [] ∧ s.toList.all isNameChar = true

instance (s : String) : Decidable (IsName s) :=
  inferInstanceAs (Decidable (_ ∧ _))

structure Attribute.Readable (a : Attribute) : Prop where
  name : IsName a.name
  value : '"' ∉ a.value.toList

def Tag.Readable : Tag → Prop
  | start name attributes | empty name attributes =>
    IsName name ∧ ∀ a ∈ attributes, a.Readable
  | stop name => IsName name

structure Piece.Readable (p : Piece) : Prop where
  text : '<' ∉ p.text.toList
  tag : p.tag.Readable

section

variable {rest : List Char}

open Text.Parser

theorem readName_append {s : String} (named : IsName s)
    (stop : ∀ c ∈ rest.head?, isNameChar c = false) :
    readName (s.toList ++ rest) = some (s, rest) := by
  have read := charsWhile1_append named.1 (List.all_eq_true.mp named.2) stop
  have back : String.ofList s.toList = s := String.ofList_toList
  rw [readName, bind_of_some read, back]
  rfl

theorem readAttribute_append {a : Attribute} (readable : a.Readable) :
    readAttribute (a.written ++ rest) = some (a, rest) := by
  have shape : a.written ++ rest =
      " ".toList ++
        (a.name.toList ++ ("=\"".toList ++ (a.value.toList ++ ("\"".toList ++ rest)))) := by
    simp [Attribute.written]
  have unquoted : ∀ c ∈ a.value.toList, (c != '"') = true := by
    intro c member
    rw [bne_iff_ne]
    rintro rfl
    exact readable.value member
  have back : String.ofList a.value.toList = a.value := String.ofList_toList
  rw [shape, readAttribute, bind_of_some (literal_append _ _),
    bind_of_some (readName_append readable.name (by simp; decide)),
    bind_of_some (literal_append _ _), bind_of_some (charsWhile_append unquoted (by simp)),
    bind_of_some (literal_append _ _), back]
  rfl

theorem readEnd_append {n : String} (named : IsName n) :
    readEnd ((Tag.stop n).written ++ rest) = some (.stop n, rest) := by
  have shape : (Tag.stop n).written ++ rest =
      "</".toList ++ (n.toList ++ (">".toList ++ rest)) := by
    simp [Tag.written]
  rw [shape, readEnd, bind_of_some (literal_append _ _),
    bind_of_some (readName_append named (by simp; decide)), bind_of_some (literal_append _ _)]
  rfl

theorem readEnd_of_named {n : String} (named : IsName n) (cs : List Char) :
    readEnd ('<' :: (n.toList ++ cs)) = none := by
  obtain ⟨c, others, parts⟩ := List.exists_cons_of_ne_nil named.1
  have different : c ≠ '/' := by
    rintro rfl
    have slash := List.all_eq_true.mp named.2 '/' (by simp [parts])
    exact absurd slash (by decide)
  have refused : literal "</" ('<' :: (c :: others ++ cs)) = none := by
    simp [literal, exactly, different]
  rw [parts, readEnd, bind_of_none refused]

theorem readAttributes_append {attributes : List Attribute}
    (readable : ∀ a ∈ attributes, a.Readable) (stops : ∀ c ∈ rest.head?, c ≠ ' ') :
    many readAttribute (attributes.flatMap Attribute.written ++ rest) =
      some (attributes, rest) := by
  apply many_append (fun a member _ => readAttribute_append (readable a member))
  · intro a _ empty
    cases empty
  · have refused : literal " " rest = none := by
      cases rest with
      | nil => rfl
      | cons c rest => simp [literal, exactly, stops c rfl]
    rw [readAttribute, bind_of_none refused]

theorem readStart_append {n : String} {attributes : List Attribute} (named : IsName n)
    (readable : ∀ a ∈ attributes, a.Readable) (rest : List Char)
    (closes : ∀ c ∈ rest.head?, c ≠ ' ' ∧ isNameChar c = false) :
    readStart ('<' :: (n.toList ++ (attributes.flatMap Attribute.written ++ rest))) =
      readClose n attributes rest := by
  have stop : ∀ c ∈ (attributes.flatMap Attribute.written ++ rest).head?,
      isNameChar c = false := by
    cases attributes with
    | nil => exact fun c first => (closes c first).2
    | cons a attributes =>
      intro c first
      obtain rfl := Option.some.inj first
      decide
  have opened : literal "<" ('<' :: (n.toList ++ (attributes.flatMap Attribute.written ++ rest))) =
      some ((), n.toList ++ (attributes.flatMap Attribute.written ++ rest)) :=
    literal_append "<" _
  rw [readStart, bind_of_some opened, bind_of_some (readName_append named stop),
    bind_of_some (readAttributes_append readable fun c first => (closes c first).1)]

theorem readTag_append {t : Tag} (readable : t.Readable) :
    firstOf [readEnd, readStart] (t.written ++ rest) = some (t, rest) := by
  cases t with
  | stop n => exact firstOf_cons_of_some (readEnd_append readable)
  | start n attributes =>
    obtain ⟨named, readable⟩ := readable
    have shape : (Tag.start n attributes).written ++ rest =
        '<' :: (n.toList ++ (attributes.flatMap Attribute.written ++ '>' :: rest)) := by
      simp [Tag.written]
    have closing : readClose n attributes ('>' :: rest) = some (.start n attributes, rest) := rfl
    have read := readStart_append named readable ('>' :: rest) (by simp; decide)
    rw [shape, firstOf_cons_of_none (readEnd_of_named named _)]
    exact firstOf_cons_of_some (read.trans closing)
  | empty n attributes =>
    obtain ⟨named, readable⟩ := readable
    have shape : (Tag.empty n attributes).written ++ rest =
        '<' :: (n.toList ++ (attributes.flatMap Attribute.written ++ '/' :: '>' :: rest)) := by
      simp [Tag.written]
    have closing : readClose n attributes ('/' :: '>' :: rest) = some (.empty n attributes, rest) :=
      rfl
    have read := readStart_append named readable ('/' :: '>' :: rest) (by simp; decide)
    rw [shape, firstOf_cons_of_none (readEnd_of_named named _)]
    exact firstOf_cons_of_some (read.trans closing)

theorem Tag.exists_written (t : Tag) : ∃ cs, t.written = '<' :: cs := by
  cases t <;> exact ⟨_, rfl⟩

theorem readPiece_append {p : Piece} (readable : p.Readable) :
    readPiece (p.written ++ rest) = some (p, rest) := by
  have plain : ∀ c ∈ p.text.toList, (c != '<') = true := by
    intro c member
    rw [bne_iff_ne]
    rintro rfl
    exact readable.text member
  have stop : ∀ c ∈ (p.tag.written ++ rest).head?, (c != '<') = false := by
    obtain ⟨cs, opened⟩ := p.tag.exists_written
    simp [opened]
  have back : String.ofList p.text.toList = p.text := String.ofList_toList
  rw [Piece.written, List.append_assoc, readPiece, bind_of_some (charsWhile_append plain stop),
    bind_of_some (readTag_append readable.tag), back]
  rfl

theorem readPiece_of_forall_isSpace (blank : rest.all Text.isSpace = true) :
    readPiece rest = none := by
  have plain : ∀ c ∈ rest, (c != '<') = true := by
    intro c member
    have space := List.all_eq_true.mp blank c member
    rw [bne_iff_ne]
    rintro rfl
    exact absurd space (by decide)
  have read : Parser.charsWhile (· != '<') (rest ++ []) = some (rest, []) :=
    charsWhile_append plain (by simp)
  rw [List.append_nil] at read
  rw [readPiece, bind_of_some read]
  exact bind_of_none rfl

theorem pieces?_written {pieces : List Piece} (readable : ∀ p ∈ pieces, p.Readable)
    (blank : rest.all Text.isSpace = true) :
    pieces? (pieces.flatMap Piece.written ++ rest) = some pieces := by
  have read : many readPiece (pieces.flatMap Piece.written ++ rest) = some (pieces, rest) := by
    apply many_append (fun p member _ => readPiece_append (readable p member))
    · intro p _ empty
      obtain ⟨cs, opened⟩ := p.tag.exists_written
      simp [Piece.written, opened] at empty
    · exact readPiece_of_forall_isSpace blank
  simp only [pieces?, read, blank, if_true]

end

end Callout.Xml
