namespace Callout

inductive LogLevel where
  | info
  | warn
  deriving DecidableEq, Repr

inductive LogSource where
  | input
  | application
  deriving DecidableEq, Repr

structure LogLine where
  level : LogLevel
  source : LogSource
  message : String
  deriving DecidableEq, Repr

namespace LogLine

def info (source : LogSource) (message : String) : LogLine := ⟨.info, source, message⟩

def warn (source : LogSource) (message : String) : LogLine := ⟨.warn, source, message⟩

/-- A character as it is written. Those that steer a terminal are replaced by their codes. -/
def visible (c : Char) : List Char :=
  let code := Nat.toDigits 16 c.toNat
  if c = '\x07' ∨ c = '\x08' ∨ c = '\x0c' then '\\' :: 'x' :: '0' :: code
  else if c = '\x1b' ∨ c = '\x7f' then '\\' :: 'x' :: code
  else if 0x80 ≤ c.toNat ∧ c.toNat ≤ 0x9F then '\\' :: 'u' :: '\x7b' :: code ++ ['\x7d']
  else [c]

def render (l : LogLine) : String :=
  (match l.level with
    | .info => "INFO "
    | .warn => "WARN ") ++ .ofList (l.message.toList.flatMap visible)

end LogLine

end Callout
