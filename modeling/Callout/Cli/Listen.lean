import Callout.Session.Report
import Callout.Text.Utf8

namespace Callout.Cli

/-- The lines of some bytes, without their ends: a line feed, and a carriage return before it. A
last line may go without a line feed. -/
def linesOf : List UInt8 → List (List UInt8)
  | [] => []
  | 10 :: bytes => [] :: linesOf bytes
  | 13 :: 10 :: bytes => [] :: linesOf bytes
  | b :: bytes =>
    match linesOf bytes with
    | [] => [[b]]
    | line :: lines => (b :: line) :: lines

def eventOf? (json : Bool) (line : String) : Option RecognitionEvent :=
  if line = "/listen" then some (.setListening true)
  else if line = "/mute" then some (.setListening false)
  else if json then (SemanticResult.ofJson? line).map .recognized
  else some (.utterance line)

structure Listener where
  session : Session
  last : Option Completion := none
  log : List LogLine := []

namespace Listener

/-- Takes in a line. White space around it does not count, and a blank line is no event. -/
def hear (json : Bool) (l : Listener) (line : String) : Listener :=
  let line := Text.trim line
  if line.isEmpty then l
  else match eventOf? json line with
    | none =>
      { l with log := l.log ++ [.warn .application "Ignoring malformed semantic result"] }
    | some e =>
      let log := l.log ++ l.session.report e
      match l.session.process e with
      | (session, .ok (some completion)) => { session, last := some completion, log }
      | (session, _) => { l with session, log }

def hearAll (json : Bool) (l : Listener) : List (List UInt8) → Listener × Option Text.Utf8Error
  | [] => (l, none)
  | line :: lines =>
    match Text.decode line with
    | .ok text => (l.hear json text).hearAll json lines
    | .error e => (l, some e)

-- Waits for the latest sequence. The worker has been at work all along, but time passes only now.
def finish (l : Listener) : Listener :=
  let emulator := l.session.emulator.settle
  { l with session := { l.session with emulator := emulator.await l.last.toList } }

end Listener

end Callout.Cli
