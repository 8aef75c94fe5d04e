import Callout.Injector.Basic

namespace Callout

/-- What is going on. While an operation is applied the worker waits for the backend, which makes
the calls on its own. -/
inductive Activity where
  | idle
  | performing (ticket : Nat) (rest : List KeyOperation)
  | applying (ticket : Nat) (op : KeyOperation) (made : List Attempt) (left : List Call)
      (rest : List KeyOperation)
  | pausing (ticket : Nat) (delay : Nat) (rest : List KeyOperation)
  deriving DecidableEq, Repr

structure Submission where
  ticket : Nat
  operations : List KeyOperation
  deriving DecidableEq, Repr

/-- What a submitter holds: nothing was to be done, or the ticket of a sequence. -/
inductive Completion where
  | ready
  | ticket (n : Nat)
  deriving DecidableEq, Repr

structure TimedAttempt extends Attempt where
  time : Nat
  deriving DecidableEq, Repr

structure Emulator where
  injector : Injector
  queue : List Submission := []
  activity : Activity := .idle
  -- The milliseconds paused for so far.
  clock : Nat := 0
  attempts : List TimedAttempt := []
  -- How finished sequences went, in the order they finished.
  outcomes : List (Nat × Except Error Unit) := []
  nextTicket : Nat := 0
  running : Bool := true

namespace Emulator

def accepted (e : Emulator) : List Call :=
  acceptedCalls (e.attempts.map (·.toAttempt))

/-- Queues a sequence. An empty one is done at once, whether or not there is a worker. -/
def submit (e : Emulator) (ops : List KeyOperation) : Except Error (Emulator × Completion) :=
  if ops.isEmpty then .ok (e, .ready)
  else if !e.running then .error .emulatorClosed
  else .ok
    ({ e with queue := e.queue ++ [⟨e.nextTicket, ops⟩], nextTicket := e.nextTicket + 1 },
      .ticket e.nextTicket)

def finish (e : Emulator) (ticket : Nat) (outcome : Except Error Unit) : Emulator :=
  { e with activity := .idle, outcomes := e.outcomes ++ [(ticket, outcome)] }

-- The backend answers the next call for an operation. An answer other than acceptance is the last.
def call (e : Emulator) (ticket : Nat) (op : KeyOperation) (made : List Attempt) (next : Call)
    (left : List Call) (rest : List KeyOperation) : Emulator :=
  let attempt : Attempt := ⟨next, e.injector.reply e.accepted next⟩
  { e with
    attempts := e.attempts ++ [⟨attempt, e.clock⟩]
    activity :=
      .applying ticket op (made ++ [attempt]) (if attempt.reply = .accepted then left else [])
        rest }

def learn (e : Emulator) (ticket : Nat) (op : KeyOperation) (made : List Attempt)
    (rest : List KeyOperation) : Emulator :=
  match faultOf made with
  | some fault => e.finish ticket (.error (.injection fault))
  | none =>
    { e with
      activity :=
        if op.delayAfter = 0 then .performing ticket rest else .pausing ticket op.delayAfter rest }

/-- The next step, if there is one. All steps but calls are those of the worker. -/
def step? (e : Emulator) : Option Emulator :=
  match e.activity, e.running with
  | .applying ticket op made (next :: left) rest, _ => some (e.call ticket op made next left rest)
  | _, false => none
  | .applying ticket op made [] rest, true => some (e.learn ticket op made rest)
  | .idle, true =>
    match e.queue with
    | [] => none
    | s :: queue => some { e with queue, activity := .performing s.ticket s.operations }
  | .performing ticket [], true => some (e.finish ticket (.ok ()))
  | .performing ticket (op :: rest), true =>
    some { e with activity := .applying ticket op [] (e.injector.calls op) rest }
  | .pausing ticket delay rest, true =>
    some { e with clock := e.clock + delay, activity := .performing ticket rest }

/-- Ends the worker where it stands. Only the calls left for an operation that is being applied are
still made. -/
def shutdown (e : Emulator) : Emulator :=
  { e with running := false, queue := [] }

/-- How a sequence went, or `none` while that is open. Sequences that the worker left unfinished
have failed. -/
def outcome? (e : Emulator) : Completion → Option (Except Error Unit)
  | .ready => some (.ok ())
  | .ticket n =>
    match e.outcomes.lookup n with
    | some outcome => some outcome
    | none => if e.running then none else some (.error .emulatorClosed)

-- Bounds on the steps: an operation is started, makes two calls at most, is learned about and
-- paused after.

def workIn : List Submission → Nat
  | [] => 0
  | s :: queue => 5 * s.operations.length + 2 + workIn queue

def workLeft (e : Emulator) : Nat :=
  (match e.activity with
    | .idle => 0
    | .performing _ rest => 5 * rest.length + 1
    | .applying _ _ _ left rest => 5 * rest.length + 3 + left.length
    | .pausing _ _ rest => 5 * rest.length + 2)
  + workIn e.queue

def stepsUntil (done : Emulator → Bool) : Nat → Emulator → Emulator
  | 0, e => e
  | n + 1, e =>
    if done e then e
    else match e.step? with
      | some e => stepsUntil done n e
      | none => e

def await (e : Emulator) (cs : List Completion) : Emulator :=
  stepsUntil (fun e => cs.all (e.outcome? · |>.isSome)) e.workLeft e

def isPausing (e : Emulator) : Bool :=
  match e.activity with
  | .pausing _ _ _ => true
  | .idle | .performing _ _ | .applying _ _ _ _ _ => false

def settle (e : Emulator) : Emulator :=
  stepsUntil isPausing e.workLeft e

def drain (e : Emulator) : Emulator :=
  stepsUntil (fun _ => false) e.workLeft e

def wait (e : Emulator) (c : Completion) : Emulator × Except Error Unit :=
  let e := e.await [c]
  (e, (e.outcome? c).getD (.error .emulatorClosed))

def send (e : Emulator) (ops : List KeyOperation) : Emulator × Except Error Unit :=
  match e.submit ops with
  | .ok (e, c) => e.wait c
  | .error err => (e, .error err)

end Emulator

end Callout
