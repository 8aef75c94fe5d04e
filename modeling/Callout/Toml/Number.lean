import Callout.Text.Digits
import Callout.Text.Parser
import Callout.Toml.Basic

namespace Callout.Toml

open Text Text.Parser

def digitRun (isDigit : Char → Bool) : Parser (List Char) := do
  let first ← char isDigit
  let others ← many (do optionally (literal "_"); char isDigit)
  return first :: others

def sign : Parser Bool :=
  firstOf [do literal "-"; return true, do literal "+"; return false, do return false]

def wholeDigits : Parser (List Char) :=
  orElse
    (do
      ahead (char (· ≠ '0'))
      digitRun isDigit)
    (do return [← char (· == '0')])

def maxInteger : Nat := 0x7FFFFFFFFFFFFFFF

def decimalInteger : Parser Int := do
  let negative ← sign
  let n := ofDigits 10 (← wholeDigits)
  if negative then
    if n ≤ maxInteger + 1 then return -n else fail
  else
    if n ≤ maxInteger then return n else fail

def basedInteger (mark : String) (base : Nat) (isDigit : Char → Bool) : Parser Int := do
  literal mark
  let n := ofDigits base (← digitRun isDigit)
  if n ≤ maxInteger then return n else fail

def integer : Parser Int :=
  firstOf
    [basedInteger "0x" 16 isHexDigit,
     basedInteger "0o" 8 fun c => '0' ≤ c && c ≤ '7',
     basedInteger "0b" 2 fun c => c == '0' || c == '1',
     decimalInteger]

def roundsToInfinity (n : Nat) (e : Int) : Bool :=
  let bound := 0x3FFFFFFFFFFFFF <<< 970
  let places : Int := (Nat.toDigits 10 n).length + e
  if n = 0 ∨ places < 300 then false
  else if 400 < places then true
  else if 0 ≤ e then bound ≤ n * pow10 e.toNat
  else bound * pow10 (-e).toNat ≤ n

def exponent : Parser Int := do
  let _ ← char fun c => c == 'e' || c == 'E'
  let negative ← sign
  let n := ofDigits 10 (← digitRun isDigit)
  return if negative then -n else n

def decimalFloat : Parser Unit := do
  let negative ← sign
  let whole ← wholeDigits
  let fraction ← Parser.optional (do literal "."; digitRun isDigit)
  let e ← if fraction.isNone then some <$> exponent else Parser.optional exponent
  let ds := fraction.getD []
  if !negative && roundsToInfinity (ofDigits 10 (whole ++ ds)) (e.getD 0 - ds.length) then fail

def specialFloat : Parser Unit := do
  let _ ← sign
  orElse (literal "inf") (literal "nan")

def written (p : Parser Unit) : Parser String := fun cs =>
  match p cs with
  | some (_, rest) => some (.ofList (cs.take (cs.length - rest.length)), rest)
  | none => none

def float : Parser String :=
  written (orElse decimalFloat specialFloat)

end Callout.Toml
