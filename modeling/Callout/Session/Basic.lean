import Callout.Emulator.Basic
import Callout.Grammar.Interpret
import Callout.Registry

namespace Callout

inductive RecognitionEvent where
  | recognized (result : SemanticResult)
  | utterance (text : String)
  | rejected (text : String)
  | setListening (on : Bool)
  deriving Repr

structure SessionState where
  listening : Bool := true
  lastCommand : Option String := none
  lastRejected : Option String := none
  deriving DecidableEq, Repr

structure Session where
  grammar : Grammar
  registry : Registry
  delay : Nat
  emulator : Emulator
  state : SessionState := {}

inductive Reading where
  | order (result : SemanticResult)
  | rejection (text : String)
  | listening (on : Bool)
  deriving Repr

namespace Session

/-- An utterance is an order if the grammar matches it and a rejection otherwise. -/
def read (s : Session) : RecognitionEvent → Reading
  | .recognized result => .order result
  | .utterance text =>
    match s.grammar.interpret text with
    | some result => .order result
    | none => .rejection text
  | .rejected text => .rejection text
  | .setListening on => .listening on

def dispatch (s : Session) (result : SemanticResult) : Except Error (Session × Completion) :=
  (s.emulator.submit (s.registry.resolveResult result s.delay)).map fun (emulator, completion) =>
    ({ s with emulator }, completion)

/-- Notes the command of an order, then dispatches it; does neither while not listening. -/
def obey (s : Session) (result : SemanticResult) : Session × Except Error (Option Completion) :=
  if !s.state.listening then (s, .ok none)
  else
    let command := (result.scalar? commandField).or s.state.lastCommand
    let s := { s with state := { s.state with lastCommand := command } }
    match s.dispatch result with
    | .ok (s, completion) => (s, .ok (some completion))
    | .error e => (s, .error e)

def process (s : Session) (e : RecognitionEvent) : Session × Except Error (Option Completion) :=
  match s.read e with
  | .order result => s.obey result
  | .rejection text => ({ s with state := { s.state with lastRejected := some text } }, .ok none)
  | .listening on => ({ s with state := { s.state with listening := on } }, .ok none)

end Session

end Callout
