import Callout.Toml.Basic

namespace Callout.Toml

/-- How a string is written: between quotation marks with escapes or between apostrophes as it is,
and on one line or on several. -/
structure Quoting where
  escapes : Bool
  multiline : Bool
  deriving DecidableEq, Repr

def isUnwritable (c : Char) : Bool :=
  (c.toNat < 0x20 && c ≠ '\t' && c ≠ '\n') || c.toNat = 0x7F

def longestRun (q : Char) (run : Nat) : List Char → Nat
  | [] => run
  | c :: cs => if c = q then longestRun q (run + 1) cs else max run (longestRun q 0 cs)

/-- The first way to write a text that needs no escape but for tabs, if there is one. A text of
several lines needs three quotes, and any text with up to two quotes in a row may have them. -/
def quotingOf (cs : List Char) : Quoting :=
  let newline := cs.contains '\n'
  let backslash := cs.contains '\\'
  let quotes := longestRun '"' 0 cs
  let apostrophes := longestRun '\'' 0 cs
  if cs.any isUnwritable then ⟨true, newline⟩
  else if !backslash && quotes = 0 && !newline then ⟨true, false⟩
  else if apostrophes = 0 && !newline then ⟨false, false⟩
  else if !backslash && quotes ≤ 2 then ⟨true, true⟩
  else if apostrophes ≤ 2 then ⟨false, true⟩
  else ⟨true, newline⟩

def hexDigits (n : Nat) : List Char :=
  let ds := (Nat.toDigits 16 n).map Char.toUpper
  List.replicate (4 - ds.length) '0' ++ ds

def escapeOf? (multiline : Bool) (c : Char) : Option (List Char) :=
  if c = '\x08' then some ['\\', 'b']
  else if c = '\t' then some ['\\', 't']
  else if c = '\n' then if multiline then none else some ['\\', 'n']
  else if c = '\x0c' then some ['\\', 'f']
  else if c = '\r' then some ['\\', 'r']
  else if c = '\\' then some ['\\', '\\']
  else if isUnwritable c then some ('\\' :: 'u' :: hexDigits c.toNat)
  else none

/-- The text with escapes, after `quotes` quotation marks in a row. On several lines two of them may
stand for themselves. -/
def escaped (multiline : Bool) (quotes : Nat) : List Char → List Char
  | [] => []
  | c :: cs =>
    if c = '"' then
      if quotes < (if multiline then 2 else 0) then c :: escaped multiline (quotes + 1) cs
      else '\\' :: '"' :: escaped multiline 0 cs
    else match escapeOf? multiline c with
      | some e => e ++ escaped multiline 0 cs
      | none => c :: escaped multiline 0 cs

def Quoting.write (q : Quoting) (cs : List Char) : List Char :=
  let quotes := List.replicate (if q.multiline then 3 else 1) (if q.escapes then '"' else '\'')
  let start := if q.multiline && cs.contains '\n' then ['\n'] else []
  quotes ++ start ++ (if q.escapes then escaped q.multiline 0 cs else cs) ++ quotes

def quoted (s : String) : String :=
  .ofList ((quotingOf s.toList).write s.toList)

def Scalar.text : Scalar → String
  | .string s => quoted s
  | .integer n => toString n
  | .float text | .datetime text => text
  | .boolean b => if b then "true" else "false"

structure Section where
  name : String
  entries : List (String × Scalar)
  deriving DecidableEq, Repr

def Section.text (s : Section) : String :=
  "[" ++ s.name ++ "]\n"
    ++ String.join (s.entries.map fun (key, v) => key ++ " = " ++ v.text ++ "\n")

def render (sections : List Section) : String :=
  "\n".intercalate (sections.map Section.text)

end Callout.Toml
