import Callout.Toml.Number

namespace Callout.Toml

open Text Text.Parser

def fixedNumber (n : Nat) : Parser Nat := do
  let ds ← upTo (char isDigit) n
  if ds.length = n then return ofDigits 10 ds else fail

def numberBetween (lo hi : Nat) : Parser Nat := do
  let n ← fixedNumber 2
  if lo ≤ n ∧ n ≤ hi then return n else fail

def isLeap (year : Nat) : Bool :=
  year % 4 = 0 && (year % 100 ≠ 0 || year % 400 = 0)

def daysInMonth (year month : Nat) : Nat :=
  if month = 2 then (if isLeap year then 29 else 28)
  else if month = 4 ∨ month = 6 ∨ month = 9 ∨ month = 11 then 30
  else 31

def date : Parser Unit := do
  let year ← fixedNumber 4
  literal "-"
  let month ← numberBetween 1 12
  literal "-"
  let _ ← numberBetween 1 (daysInMonth year month)

def time : Parser Unit := do
  let _ ← numberBetween 0 23
  literal ":"
  let _ ← numberBetween 0 59
  literal ":"
  let _ ← numberBetween 0 60
  optionally do
    literal "."
    let _ ← charsWhile1 isDigit

def offset : Parser Unit :=
  orElse
    (do let _ ← char fun c => c == 'Z' || c == 'z')
    (do
      let _ ← char fun c => c == '+' || c == '-'
      let _ ← numberBetween 0 23
      literal ":"
      let _ ← numberBetween 0 59)

def datetime : Parser String :=
  written (orElse
    (do
      date
      optionally do
        let _ ← char fun c => c == 'T' || c == 't' || c == ' '
        time
        optionally offset)
    time)

end Callout.Toml
