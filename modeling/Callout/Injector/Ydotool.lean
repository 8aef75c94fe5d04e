import Callout.Injector.Basic
import Callout.Text.Utf8

namespace Callout

inductive ToolRun where
  | succeeds
  | missing
  | fails (stderr : List UInt8)
  deriving DecidableEq, Repr

structure Tools where
  found : Bool := true
  daemon : Bool := true
  run : ToolRun := .succeeds
  deriving DecidableEq, Repr

namespace Ydotool

def notAvailable : String := "ydotool not available"

def reply (t : Tools) : Reply :=
  if !t.found then .refused notAvailable
  else match t.run with
    | .succeeds => .accepted
    | .missing => .refused "Failed to run ydotool: No such file or directory (os error 2)"
    | .fails stderr => .refused ("ydotool failed: " ++ Text.decodeLossy stderr)

def injector (t : Tools) : Injector where
  name := "Wayland (ydotool)"
  clicksAtOnce := true
  reply _ _ := reply t

def warnings (t : Tools) : List String :=
  (if t.found then [] else ["ydotool not found in PATH"])
    ++ (if t.daemon then []
      else ["ydotoold daemon not running. Start with: sudo systemctl start ydotool"])

def event (key : Key) (state : Nat) : String :=
  " " ++ toString key.scanCode ++ ":" ++ toString state

/-- The arguments for a call: the codes of the key with `1` for down and `0` for up. -/
def arguments : Call → String
  | .press key => "key" ++ event key 1
  | .release key => "key" ++ event key 0
  | .click key => "key" ++ event key 1 ++ event key 0

def runs (t : Tools) (calls : List Call) : List String :=
  if t.found && t.run ≠ .missing then calls.map arguments else []

end Ydotool

end Callout
