import Callout.Command
import Callout.Semantics.Basic

namespace Callout

structure RegisteredCommand where
  command : Command
  directObjects : Std.HashMap String (List KeyOperation)

structure Registry where
  subject : Slot
  commands : Std.HashMap String RegisteredCommand
  ids : List String

namespace Registry

def empty (subject : Slot) : Registry :=
  ⟨subject, ∅, []⟩

def contains (r : Registry) (id : String) : Bool :=
  r.commands.contains id

def register (r : Registry) (c : Command) : Except Error Registry :=
  if r.contains c.id then .error (.duplicateCommand c.id)
  else .ok
    { r with
      commands := r.commands.insert c.id ⟨c, c.directObjectTable⟩
      ids := r.ids ++ [c.id] }

def get? (r : Registry) (id : String) : Option Command :=
  r.commands[id]?.map (·.command)

def commandKeys? (r : Registry) (id : String) : Option (List KeyOperation) :=
  (r.get? id).map (·.keys)

def directObjectKeys? (r : Registry) (id tag : String) : Option (List KeyOperation) :=
  r.commands[id]?.bind (·.directObjects[tag]?)

def subjectKeys? (r : Registry) (tag : String) : Option (List KeyOperation) :=
  r.subject.keysFor? tag

def size (r : Registry) : Nat :=
  r.commands.size

def isEmpty (r : Registry) : Bool :=
  r.commands.isEmpty

/-- The keys of an order: those of its subjects, its command and its direct object. Names that are
not known send nothing, and neither does a direct object without its command. -/
def resolve (r : Registry) (o : Order) : List KeyOperation :=
  let subjectKeys := (o.subjects.getD []).flatMap fun tag => (r.subjectKeys? tag).getD []
  match o.command with
  | none => subjectKeys
  | some id =>
    match r.commandKeys? id with
    | none => subjectKeys
    | some commandKeys =>
      subjectKeys ++ commandKeys ++ (o.directObject.bind (r.directObjectKeys? id)).getD []

def resolveResult (r : Registry) (result : SemanticResult) (delay : Nat) : List KeyOperation :=
  KeyOperation.spaced (r.resolve result.order) delay

end Registry

end Callout
