import Callout.Binary64.Shortest
import Callout.Json.Basic

namespace Callout.Json

def hexDigit (n : Nat) : Char :=
  if n < 10 then Char.ofNat (n + 48) else Char.ofNat (n + 87)

def escapeChar (c : Char) : List Char :=
  if c = '"' then ['\\', '"']
  else if c = '\\' then ['\\', '\\']
  else if c = '\n' then ['\\', 'n']
  else if c = '\r' then ['\\', 'r']
  else if c = '\t' then ['\\', 't']
  else if c = '\x08' then ['\\', 'b']
  else if c = '\x0c' then ['\\', 'f']
  else if c.toNat < 0x20 then
    ['\\', 'u', '0', '0', hexDigit (c.toNat / 16), hexDigit (c.toNat % 16)]
  else [c]

def quote (s : String) : List Char :=
  '"' :: (s.toList.flatMap escapeChar ++ ['"'])

def zeros (n : Nat) : List Char :=
  List.replicate n '0'

/-- A decimal with the first digit at `10 ^ e`: positional from `10 ^ (-5)` to below `10 ^ 16`, with
a fraction even if it is zero, and in exponent form beyond. -/
def decimalText (d : Binary64.Decimal) : List Char :=
  let ds := (toString d.coefficient).toList
  let e := d.exponent + ds.length - 1
  if -5 ≤ e ∧ e < 16 then
    if 0 ≤ d.exponent then ds ++ zeros d.exponent.toNat ++ ['.', '0']
    else if 0 ≤ e then ds.take (e + 1).toNat ++ '.' :: ds.drop (e + 1).toNat
    else '0' :: '.' :: (zeros (-e - 1).toNat ++ ds)
  else
    let fraction := if ds.length = 1 then [] else '.' :: ds.drop 1
    let sign := if e < 0 then '-' else '+'
    ds.take 1 ++ fraction ++ 'e' :: sign :: (toString e.natAbs).toList

def realText (x : Binary64) : List Char :=
  let digits := if x.significand = 0 then ['0', '.', '0'] else decimalText x.shortest
  if x.negative then '-' :: digits else digits

def Number.text : Number → List Char
  | natural n => (toString n).toList
  | negative n => '-' :: (toString n).toList
  | real x => realText x

mutual

def chars : Json → List Char
  | null => ['n', 'u', 'l', 'l']
  | bool true => ['t', 'r', 'u', 'e']
  | bool false => ['f', 'a', 'l', 's', 'e']
  | number n => n.text
  | string s => quote s
  | array items => '[' :: (charsOfItems items ++ [']'])
  | object members => '\x7b' :: (charsOfMembers members ++ ['\x7d'])

def charsOfItems : List Json → List Char
  | [] => []
  | [j] => j.chars
  | j :: js => j.chars ++ ',' :: charsOfItems js

def charsOfMembers : List (String × Json) → List Char
  | [] => []
  | [(name, j)] => quote name ++ ':' :: j.chars
  | (name, j) :: ms => quote name ++ ':' :: (j.chars ++ ',' :: charsOfMembers ms)

end

def compact (j : Json) : String :=
  .ofList j.chars

end Callout.Json
