import Callout.Error
import Callout.Grammar.Basic
import Callout.Key.Operation
import Callout.Text.Space

namespace Callout

inductive SlotKind where
  | subject
  | directObject
  deriving DecidableEq, Repr

def SlotKind.field : SlotKind → String
  | subject => subjectField
  | directObject => directObjectField

structure SlotEntry where
  phrases : List String
  tag : String
  keys : List KeyOperation
  deriving DecidableEq, Repr

structure Slot where
  name : String
  kind : SlotKind
  maxRepeat : Nat
  entries : List SlotEntry
  deriving DecidableEq, Repr

structure SlotReference where
  rule : String
  kind : SlotKind
  deriving DecidableEq, Repr

namespace Slot

def subject (name : String) (maxRepeat : Nat) : Slot :=
  ⟨name, .subject, max maxRepeat 1, []⟩

def directObject (name : String) : Slot :=
  ⟨name, .directObject, 1, []⟩

def phrases (s : Slot) : List String :=
  s.entries.flatMap (·.phrases)

def samePhrase (p q : String) : Bool :=
  p.toList.map Char.toLower == q.toList.map Char.toLower

def acceptPhrases (taken : List String) : List String → Except String (List String)
  | [] => .ok []
  | phrase :: rest =>
    let phrase := Text.trim phrase
    if taken.any (samePhrase phrase) then .error phrase
    else (acceptPhrases (phrase :: taken) rest).map (phrase :: ·)

/-- Adds an entry. Its tag and its phrases must be new to the slot. -/
def addEntry (s : Slot) (phrases : List String) (tag : String) (keys : List KeyOperation) :
    Except Error Slot :=
  if s.entries.any (·.tag == tag) then .error (.duplicateTag s.name tag)
  else match acceptPhrases s.phrases phrases with
    | .error phrase => .error (.duplicatePhrase s.name phrase)
    | .ok phrases => .ok { s with entries := s.entries ++ [⟨phrases, tag, keys⟩] }

def entryFor? (s : Slot) (tag : String) : Option SlotEntry :=
  s.entries.find? (·.tag == tag)

def entryFor (s : Slot) (tag : String) : Except Error SlotEntry :=
  match s.entryFor? tag with
  | some entry => .ok entry
  | none => .error (.unknownTag s.name tag)

def keysFor? (s : Slot) (tag : String) : Option (List KeyOperation) :=
  (s.entryFor? tag).map (·.keys)

def alternative (s : Slot) (e : SlotEntry) : Element :=
  .sequence [.oneOf (e.phrases.map .phrase), .literalTag s.kind.field e.tag]

def rule (s : Slot) : Rule where
  id := s.name
  scope := .internal
  body :=
    let choice := Element.oneOf (s.entries.map s.alternative)
    if 1 < s.maxRepeat then .repetition choice 1 (some s.maxRepeat) else choice

def reference (s : Slot) : SlotReference :=
  ⟨s.name, s.kind⟩

end Slot

namespace SlotReference

def mention (r : SlotReference) : Element :=
  .sequence [.ruleRef r.rule, .ruleTag r.kind.field r.rule]

def element (r : SlotReference) : Element :=
  .optional r.mention

end SlotReference

end Callout
