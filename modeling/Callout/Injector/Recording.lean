import Callout.Injector.Basic

namespace Callout.Injector

def stub : Injector where
  name := "Stub (no-op)"
  clicksAtOnce := true
  reply _ _ := .accepted
  describe
    | .press key => some ("[STUB] Would press: " ++ key.name)
    | .release key => some ("[STUB] Would release: " ++ key.name)
    | .click key => some ("[STUB] Would click: " ++ key.name)

def reached (limit : Option Nat) (count : Nat) : Bool :=
  limit.any (· ≤ count)

/-- Accepts calls until it holds `failAfter` of them, and breaks down, as `crashText` tells, in a
call made when it holds `crashAt`. -/
def recorder (name : String) (clicksAtOnce : Bool) (failAfter crashAt : Option Nat)
    (crashText : String) : Injector where
  name
  clicksAtOnce
  reply accepted call :=
    if crashAt == some accepted.length then .crashed crashText
    else if reached failAfter accepted.length then
      .refused ("injected failure on " ++ call.key.name)
    else .accepted

end Callout.Injector
