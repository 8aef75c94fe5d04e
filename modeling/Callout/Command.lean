import Callout.Slot
import Std.Data.HashMap

namespace Callout

structure Command where
  id : String
  phrases : List String
  keys : List KeyOperation
  subject : Option SlotReference
  directObject : Option Slot
  deriving DecidableEq, Repr

namespace Command

def new (id : String) (phrases : List String) (keys : List KeyOperation)
    (subject : Option SlotReference) (directObject : Option Slot) : Command :=
  ⟨id, phrases.map Text.trim, keys, subject, directObject⟩

/-- The command as an alternative of the root rule: subject, trigger phrase, direct object. -/
def alternative (c : Command) : Element :=
  .sequence
    ((c.subject.map (·.element)).toList
      ++ [.oneOf (c.phrases.map .phrase), .literalTag commandField c.id]
      ++ (c.directObject.map (·.reference.element)).toList)

def directObjectEntries (c : Command) : List SlotEntry :=
  (c.directObject.map (·.entries)).getD []

def directObjectTable (c : Command) : Std.HashMap String (List KeyOperation) :=
  c.directObjectEntries.foldl (fun table e => table.insert e.tag e.keys) ∅

end Command

end Callout
