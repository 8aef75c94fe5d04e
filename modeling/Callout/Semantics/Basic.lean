import Callout.Grammar.Basic
import Callout.Json.Printer
import Callout.Json.Reader
import Callout.Text.Space

namespace Callout

structure SemanticResult where
  fields : List (String × Json) := []
  deriving Repr

namespace SemanticResult

def empty : SemanticResult := {}

def insert (r : SemanticResult) (field : String) (value : Json) : SemanticResult :=
  ⟨Json.insertMember field value r.fields⟩

def ofList (fields : List (String × Json)) : SemanticResult :=
  fields.foldl (fun r f => r.insert f.1 f.2) empty

/-- The result that a JSON text stands for, which has to be an object. -/
def ofJson? (text : String) : Option SemanticResult :=
  match Json.parse? text with
  | some (.object members) => some ⟨members⟩
  | _ => none

def get? (r : SemanticResult) (field : String) : Option Json :=
  r.fields.lookup field

def contains (r : SemanticResult) (field : String) : Bool :=
  (r.get? field).isSome

/-- The text of a field: a string as it is, anything else as JSON. -/
def text? (r : SemanticResult) (field : String) : Option String :=
  (r.get? field).map fun
    | .string s => s
    | value => value.compact

end SemanticResult

def objectMarker : String := "[object Object]"

def isDelimiter (c : Char) : Bool :=
  c == '\x7b' || c == '\x7d' || c == ' '

def removeFirst (marker : List Char) : List Char → List Char
  | [] => []
  | c :: cs =>
    if marker.isPrefixOf (c :: cs) then (c :: cs).drop marker.length else c :: removeFirst marker cs

def fragments (text : String) : List String :=
  (Text.runs isDelimiter (removeFirst objectMarker.toList text.toList)).map .ofList

namespace SemanticResult

def list? (r : SemanticResult) (field : String) : Option (List String) :=
  (r.text? field).map fragments

def scalar? (r : SemanticResult) (field : String) : Option String :=
  (r.text? field).bind fun text => (fragments text).head?

end SemanticResult

/-- What an order names. `none` stands for a field that is missing or has no fragment. -/
structure Order where
  subjects : Option (List String)
  command : Option String
  directObject : Option String
  deriving DecidableEq, Repr

def SemanticResult.order (r : SemanticResult) : Order where
  subjects := r.list? subjectField
  command := r.scalar? commandField
  directObject := r.scalar? directObjectField

end Callout
