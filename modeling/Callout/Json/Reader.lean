import Callout.Json.Basic
import Callout.Text.Digits
import Callout.Text.Parser

namespace Callout.Json

open Text Text.Parser

def maxNatural : Nat := 0xFFFFFFFFFFFFFFFF

def maxDepth : Nat := 127

def isBlank (c : Char) : Bool :=
  c == ' ' || c == '\n' || c == '\t' || c == '\r'

def blanks : Parser Unit := do
  let _ ← charsWhile isBlank

def hex4? (a b c d : Char) : Option Nat := do
  return ((← hexValue? a) * 16 + (← hexValue? b)) * 256 + ((← hexValue? c) * 16 + (← hexValue? d))

def unescape? (c : Char) : Option Char :=
  if c = '"' ∨ c = '\\' ∨ c = '/' then some c
  else if c = 'b' then some '\x08'
  else if c = 'f' then some '\x0c'
  else if c = 'n' then some '\n'
  else if c = 'r' then some '\r'
  else if c = 't' then some '\t'
  else none

/-- The rest of a string after the opening quote. A code unit of a surrogate pair counts only
together with the other one. -/
def stringRest : Parser (List Char)
  | '"' :: rest => some ([], rest)
  | '\\' :: 'u' :: a :: b :: c :: d :: rest =>
    match hex4? a b c d with
    | none => none
    | some n =>
      if 0xDC00 ≤ n ∧ n ≤ 0xDFFF then none
      else if 0xD800 ≤ n ∧ n ≤ 0xDBFF then
        match rest with
        | '\\' :: 'u' :: a' :: b' :: c' :: d' :: rest' =>
          match hex4? a' b' c' d' with
          | some m =>
            if 0xDC00 ≤ m ∧ m ≤ 0xDFFF then
              (stringRest rest').map fun (cs, r) =>
                (Char.ofNat (0x10000 + (n - 0xD800) * 0x400 + (m - 0xDC00)) :: cs, r)
            else none
          | none => none
        | _ => none
      else (stringRest rest).map fun (cs, r) => (Char.ofNat n :: cs, r)
  | '\\' :: e :: rest =>
    match unescape? e with
    | some c => (stringRest rest).map fun (cs, r) => (c :: cs, r)
    | none => none
  | c :: rest =>
    if c = '\\' ∨ c.toNat < 0x20 then none
    else (stringRest rest).map fun (cs, r) => (c :: cs, r)
  | [] => none

def stringText : Parser String := do
  literal "\""
  let cs ← stringRest
  return .ofList cs

def fitting (n : Nat) : List Char → Nat × List Char
  | [] => (n, [])
  | d :: ds =>
    if n * 10 + digitValue d ≤ maxNatural then fitting (n * 10 + digitValue d) ds else (n, d :: ds)

def timesPow10? (x : Binary64) (k : Nat) : Option Binary64 :=
  if k ≤ 308 then (Binary64.ofRatio? (pow10 k) 1).bind x.mul?
  else if x.significand = 0 then some x
  else none

def overPow10? (x : Binary64) (k : Nat) : Option Binary64 :=
  if k ≤ 308 then (Binary64.ofRatio? (pow10 k) 1).bind x.div?
  else if x.significand = 0 then some x
  else ((Binary64.ofRatio? (pow10 308) 1).bind x.div?).bind (overPow10? · (k - 308))
termination_by k

def real? (negative : Bool) (significand : Nat) (exponent : Int) : Option Number := do
  let x ← Binary64.ofRatio? significand 1
  let x ← if 0 ≤ exponent then timesPow10? x exponent.toNat else overPow10? x (-exponent).toNat
  return .real { x with negative }

def integer (negative : Bool) (n : Nat) : Number :=
  if !negative then .natural n
  else if n = 0 ∨ 0x8000000000000000 < n then
    .real { (Binary64.ofRatio? n 1).getD .zero with negative }
  else .negative n

def digits1 : Parser (List Char) :=
  charsWhile1 isDigit

def wholeDigits : Parser (List Char) := do
  let ds ← digits1
  match ds with
  | '0' :: _ :: _ => fail
  | _ => return ds

def exponentPart : Parser Int := do
  let _ ← char fun c => c == 'e' || c == 'E'
  let sign ← Parser.optional (char fun c => c == '+' || c == '-')
  let ds ← digits1
  let n := ofDigits 10 ds
  return if sign = some '-' then -n else n

def numberText : Parser Number := do
  let sign ← Parser.optional (char (· == '-'))
  let whole ← wholeDigits
  let fraction ← Parser.optional (do literal "."; digits1)
  let exponent ← Parser.optional exponentPart
  let negative := sign.isSome
  let (n, beyond) := fitting 0 whole
  if beyond.isEmpty && fraction.isNone && exponent.isNone then
    return integer negative n
  let ds := fraction.getD []
  let (m, unused) := fitting n ds
  let places : Int := (beyond.length : Int) - (ds.length - unused.length : Nat)
  match real? negative m (places + exponent.getD 0) with
  | some x => return x
  | none => fail

def scalar : Parser Json :=
  firstOf
    [do literal "null"; return .null,
     do literal "true"; return .bool true,
     do literal "false"; return .bool false,
     do return .number (← numberText),
     do return .string (← stringText)]

def listOf {α : Type} (p : Parser α) : Parser (List α) := do
  blanks
  let items ← Parser.optional (sepBy1 (do blanks; let a ← p; blanks; return a) (literal ","))
  return items.getD []

def arrayOf (item : Parser Json) : Parser Json := do
  literal "["
  let items ← listOf item
  literal "]"
  return .array items

def objectOf (item : Parser Json) : Parser Json := do
  literal "\x7b"
  let members ← listOf do
    let name ← stringText
    blanks
    literal ":"
    blanks
    return (name, ← item)
  literal "\x7d"
  return .ofMembers members

def value : Nat → Parser Json
  | 0 => scalar
  | depth + 1 => firstOf [scalar, arrayOf (value depth), objectOf (value depth)]

def parse? (s : String) : Option Json :=
  run? (do blanks; let j ← value maxDepth; blanks; return j) s.toList

end Callout.Json
