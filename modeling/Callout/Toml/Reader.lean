import Callout.Toml.Datetime
import Callout.Toml.Number
import Callout.Toml.Table
import Callout.Toml.Text

namespace Callout.Toml

open Text Text.Parser

def maxNesting : Nat := 79

def scalar : Parser Scalar :=
  firstOf
    [do return .string (← stringText),
     do return .datetime (← datetime),
     do return .float (← float),
     do return .integer (← integer),
     do literal "true"; return .boolean true,
     do literal "false"; return .boolean false]

def array (item : Parser Value) : Parser Value := do
  literal "["
  let items ← Parser.optional do
    let items ← sepBy1 (do gap; let v ← item; gap; return v) (literal ",")
    optionally (literal ",")
    return items
  gap
  literal "]"
  return .array (items.getD [])

def entry (item : Parser Value) : Parser (Path × Value) := do
  let p ← path
  literal "="
  blanks
  return (p, ← item)

def braces (item : Parser Value) : Parser Value := do
  literal "\x7b"
  let entries ← Parser.optional (sepBy1 (do let e ← entry item; blanks; return e) (literal ","))
  blanks
  literal "\x7d"
  match Table.ofEntries? (entries.getD []) with
  | some t => return .table .braced t
  | none => fail

def value : Nat → Parser Value
  | 0 => do return .scalar (← scalar)
  | depth + 1 => firstOf
    [do return .scalar (← scalar), array (value depth), braces (value depth)]

def statement : Parser Statement :=
  firstOf
    [do literal "[["; let p ← path; literal "]]"; return .element p,
     do literal "["; let p ← path; literal "]"; return .header p,
     do let (p, v) ← entry (value maxNesting); return .assign p v]

def line : Parser (Option Statement) := do
  blanks
  let s ← Parser.optional statement
  blanks
  optionally comment
  return s

def statements : Parser (List Statement) := do
  optionally (literal "\ufeff")
  let lines ← sepBy1 line newline
  return lines.filterMap id

def parse? (s : String) : Option Table :=
  (run? statements s.toList).bind Table.ofStatements?

end Callout.Toml
