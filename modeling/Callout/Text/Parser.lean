namespace Callout.Text

abbrev Parser (α : Type) := List Char → Option (α × List Char)

namespace Parser

variable {α β : Type}

def return' (a : α) : Parser α := fun cs => some (a, cs)

def andThen (p : Parser α) (f : α → Parser β) : Parser β := fun cs =>
  match p cs with
  | some (a, rest) => f a rest
  | none => none

instance : Monad Parser where
  pure := return'
  bind := andThen

def fail : Parser α := fun _ => none

def orElse (p q : Parser α) : Parser α := fun cs =>
  match p cs with
  | some r => some r
  | none => q cs

def firstOf (ps : List (Parser α)) : Parser α :=
  ps.foldr orElse fail

def char (p : Char → Bool) : Parser Char
  | [] => none
  | c :: rest => if p c then some (c, rest) else none

def exactly : List Char → Parser Unit
  | [] => fun cs => some ((), cs)
  | c :: cs => fun text =>
    match text with
    | [] => none
    | t :: rest => if t = c then exactly cs rest else none

def literal (s : String) : Parser Unit :=
  exactly s.toList

def charsWhile (p : Char → Bool) : Parser (List Char) := fun cs =>
  some (cs.span p)

def charsWhile1 (p : Char → Bool) : Parser (List Char) := fun cs =>
  match cs.span p with
  | ([], _) => none
  | r => some r

def optional (p : Parser α) : Parser (Option α) := fun cs =>
  match p cs with
  | some (a, rest) => some (some a, rest)
  | none => some (none, cs)

def optionally (p : Parser Unit) : Parser Unit := fun cs =>
  match p cs with
  | some r => some r
  | none => some ((), cs)

def ahead (p : Parser α) : Parser Unit := fun cs =>
  match p cs with
  | some _ => some ((), cs)
  | none => none

def upTo (p : Parser α) : Nat → Parser (List α)
  | 0 => fun cs => some ([], cs)
  | n + 1 => fun cs =>
    match p cs with
    | none => some ([], cs)
    | some (a, rest) =>
      match upTo p n rest with
      | none => none
      | some (as, rest) => some (a :: as, rest)

/-- As often as `p` accepts, for a parser that reads something whenever it accepts: then the text
has more characters than there are rounds. -/
def many (p : Parser α) : Parser (List α) := fun cs =>
  upTo p cs.length cs

/-- One or more `p` with `sep` in between. A separator that no further `p` follows is not read. -/
def sepBy1 (p : Parser α) (sep : Parser Unit) : Parser (List α) := do
  let first ← p
  let others ← many (do sep; p)
  return first :: others

def run? (p : Parser α) (cs : List Char) : Option α :=
  match p cs with
  | some (a, []) => some a
  | _ => none

end Parser

end Callout.Text
