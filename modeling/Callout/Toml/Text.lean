import Callout.Text.Digits
import Callout.Text.Parser
import Callout.Toml.Basic

namespace Callout.Toml

open Text Text.Parser

def isBlank (c : Char) : Bool :=
  c == ' ' || c == '\t'

def blanks : Parser Unit := do
  let _ ← charsWhile isBlank

def newline : Parser Unit :=
  orElse (literal "\n") (literal "\r\n")

def isPlain (c : Char) : Bool :=
  c == '\t' || (0x20 ≤ c.toNat && c.toNat ≠ 0x7F)

def comment : Parser Unit := do
  literal "#"
  let _ ← charsWhile isPlain

def gap : Parser Unit := do
  let _ ← many (firstOf [do let _ ← charsWhile1 isBlank, newline, comment])

def unescape? (c : Char) : Option Char :=
  if c = '"' ∨ c = '\\' then some c
  else if c = 'b' then some '\x08'
  else if c = 't' then some '\t'
  else if c = 'n' then some '\n'
  else if c = 'f' then some '\x0c'
  else if c = 'r' then some '\r'
  else none

def codePoint (n : Nat) : Parser Char := do
  let ds ← upTo (char isHexDigit) n
  let code := ofDigits 16 ds
  if ds.length = n ∧ code.isValidChar then return Char.ofNat code else fail

def escape : Parser Char := do
  literal "\\"
  let c ← char fun _ => true
  match unescape? c with
  | some r => return r
  | none => if c = 'u' then codePoint 4 else if c = 'U' then codePoint 8 else fail

def isBasicPlain (c : Char) : Bool :=
  isPlain c && c ≠ '"' && c ≠ '\\'

def isLiteralPlain (c : Char) : Bool :=
  isPlain c && c ≠ '\''

def basicString : Parser String := do
  literal "\""
  let cs ← many (orElse (char isBasicPlain) escape)
  literal "\""
  return .ofList cs

def literalString : Parser String := do
  literal "'"
  let cs ← charsWhile isLiteralPlain
  literal "'"
  return .ofList cs

def innerQuotes (quote : Char) : Parser (List Char) :=
  firstOf ([2, 1].map fun n => do
    exactly (List.replicate n quote)
    ahead (char (· ≠ quote))
    return List.replicate n quote)

def closingQuotes (quote : Char) : Parser (List Char) :=
  firstOf ([2, 1, 0].map fun n => do
    exactly (List.replicate (n + 3) quote)
    return List.replicate n quote)

/-- A text of several lines between three quotes on either side. A line end right after the opening
ones is not part of it, and all its line ends count as line feeds. -/
def linesString (quote : Char) (piece : Parser (List Char)) : Parser String := do
  exactly (List.replicate 3 quote)
  optionally newline
  let pieces ← many (firstOf [piece, do newline; return ['\n'], innerQuotes quote])
  let quotes ← closingQuotes quote
  return .ofList (pieces.flatten ++ quotes)

/-- A backslash at the end of a line, which stands for nothing along with all white space after it.
-/
def continuation : Parser (List Char) := do
  literal "\\"
  blanks
  newline
  let _ ← many (orElse (do let _ ← charsWhile1 isBlank) newline)
  return []

def basicLines : Parser String :=
  linesString '"' (firstOf
    [do return [← char isBasicPlain], continuation, do return [← escape]])

def literalLines : Parser String :=
  linesString '\'' (do return [← char isLiteralPlain])

def stringText : Parser String :=
  firstOf [basicLines, basicString, literalLines, literalString]

def isBareKey (c : Char) : Bool :=
  c.isAlphanum || c == '_' || c == '-'

def simpleKey : Parser String :=
  firstOf [basicString, literalString, do return .ofList (← charsWhile1 isBareKey)]

def maxPathLength : Nat := 79

def path : Parser Path := do
  let keys ← sepBy1 (do blanks; let key ← simpleKey; blanks; return key) (literal ".")
  if keys.length ≤ maxPathLength then return keys else fail

end Callout.Toml
