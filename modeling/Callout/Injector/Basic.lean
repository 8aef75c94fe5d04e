import Callout.Error
import Callout.Key.Operation

namespace Callout

inductive Call where
  | press (key : Key)
  | release (key : Key)
  | click (key : Key)
  deriving DecidableEq, Repr

def Call.key : Call → Key
  | press key | release key | click key => key

/-- How a backend answers a call. Only an accepted call has an effect. -/
inductive Reply where
  | accepted
  | refused (message : String)
  | crashed (message : String)
  deriving DecidableEq, Repr

def Reply.fault? : Reply → Option InjectionFault
  | accepted => none
  | refused message => some (.refused message)
  | crashed message => some (.crashed message)

structure Injector where
  name : String
  -- Whether a click is one call rather than a press and a release.
  clicksAtOnce : Bool
  reply : List Call → Call → Reply
  describe : Call → Option String := fun _ => none

structure Attempt where
  call : Call
  reply : Reply
  deriving DecidableEq, Repr

namespace Injector

def click (inj : Injector) (key : Key) : List Call :=
  if inj.clicksAtOnce then [.click key] else [.press key, .release key]

def calls (inj : Injector) (op : KeyOperation) : List Call :=
  match op.action with
  | .press => [.press op.key]
  | .pressAndRelease => inj.click op.key

/-- Makes calls up to the first that is not accepted. -/
def attempt (inj : Injector) (accepted : List Call) : List Call → List Attempt
  | [] => []
  | c :: cs =>
    match inj.reply accepted c with
    | .accepted => ⟨c, .accepted⟩ :: inj.attempt (accepted ++ [c]) cs
    | reply => [⟨c, reply⟩]

end Injector

def acceptedCalls (attempts : List Attempt) : List Call :=
  (attempts.filter (·.reply == .accepted)).map (·.call)

def faultOf (attempts : List Attempt) : Option InjectionFault :=
  attempts.findSome? (·.reply.fault?)

end Callout
