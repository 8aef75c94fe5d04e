import Callout.Text.Alphanumeric
import Callout.Text.PrintableTable

namespace Callout.Text

def codePointEscape (c : Char) : List Char :=
  '\\' :: 'u' :: '\x7b' :: Nat.toDigits 16 c.toNat ++ ['\x7d']

def isHidden (c : Char) : Bool :=
  c.toNat < 0x20 || c.toNat = 0x7F
    || inRanges attachingMarkRanges c.toNat || inRanges unprintableRanges c.toNat

def quotedChar (c : Char) : List Char :=
  if c = '\x00' then ['\\', '0']
  else if c = '\t' then ['\\', 't']
  else if c = '\r' then ['\\', 'r']
  else if c = '\n' then ['\\', 'n']
  else if c = '"' ∨ c = '\\' then ['\\', c]
  else if isHidden c then codePointEscape c
  else [c]

def quoted (s : String) : String :=
  "\"" ++ .ofList (s.toList.flatMap quotedChar) ++ "\""

end Callout.Text
