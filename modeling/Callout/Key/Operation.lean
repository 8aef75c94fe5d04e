import Callout.Key

namespace Callout

inductive KeyAction where
  | press
  | pressAndRelease
  deriving DecidableEq, Repr

/-- One key with what to do to it, and the milliseconds to wait afterwards. -/
structure KeyOperation where
  key : Key
  action : KeyAction
  delayAfter : Nat
  deriving DecidableEq, Repr

namespace KeyOperation

def tap (key : Key) : KeyOperation :=
  ⟨key, .pressAndRelease, 0⟩

def hold (key : Key) : KeyOperation :=
  ⟨key, .press, 0⟩

def withDelay (op : KeyOperation) (delay : Nat) : KeyOperation :=
  { op with delayAfter := delay }

def spaced (ops : List KeyOperation) (delay : Nat) : List KeyOperation :=
  ops.map (·.withDelay delay)

end KeyOperation

end Callout
