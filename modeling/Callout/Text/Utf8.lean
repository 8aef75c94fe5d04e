namespace Callout.Text

/-- Piece by piece what a sequence of bytes holds. -/
inductive Utf8Piece where
  | char (c : Char)
  | invalid (length : Nat)
  | incomplete (length : Nat)
  deriving DecidableEq, Repr

structure PartialChar where
  code : Nat
  length : Nat
  missing : Nat
  lo : Nat := 0x80
  hi : Nat := 0xBF
  deriving DecidableEq, Repr

def PartialChar.ofLead? (b : Nat) : Option PartialChar :=
  if 0xC2 ≤ b ∧ b ≤ 0xDF then some ⟨b - 0xC0, 1, 1, 0x80, 0xBF⟩
  else if b = 0xE0 then some ⟨0, 1, 2, 0xA0, 0xBF⟩
  else if b = 0xED then some ⟨0xD, 1, 2, 0x80, 0x9F⟩
  else if 0xE1 ≤ b ∧ b ≤ 0xEF then some ⟨b - 0xE0, 1, 2, 0x80, 0xBF⟩
  else if b = 0xF0 then some ⟨0, 1, 3, 0x90, 0xBF⟩
  else if 0xF1 ≤ b ∧ b ≤ 0xF3 then some ⟨b - 0xF0, 1, 3, 0x80, 0xBF⟩
  else if b = 0xF4 then some ⟨4, 1, 3, 0x80, 0x8F⟩
  else none

abbrev Utf8Step := List Utf8Piece × Option PartialChar

def firstByte (b : Nat) : Utf8Step :=
  if b < 0x80 then ([.char (Char.ofNat b)], none)
  else match PartialChar.ofLead? b with
    | some p => ([], some p)
    | none => ([.invalid 1], none)

/-- A byte that does not continue a character starts anew. -/
def PartialChar.next (p : PartialChar) (b : Nat) : Utf8Step :=
  if p.lo ≤ b ∧ b ≤ p.hi then
    let code := p.code * 64 + (b - 0x80)
    if p.missing = 1 then ([.char (Char.ofNat code)], none)
    else ([], some { code, length := p.length + 1, missing := p.missing - 1 })
  else
    let (pieces, started) := firstByte b
    (.invalid p.length :: pieces, started)

def utf8PiecesFrom (started : Option PartialChar) : List UInt8 → List Utf8Piece
  | [] => (started.map fun p => .incomplete p.length).toList
  | b :: bytes =>
    let (pieces, started) := match started with
      | some p => p.next b.toNat
      | none => firstByte b.toNat
    pieces ++ utf8PiecesFrom started bytes

def utf8Pieces (bytes : List UInt8) : List Utf8Piece :=
  utf8PiecesFrom none bytes

def decodeLossy (bytes : List UInt8) : String :=
  .ofList ((utf8Pieces bytes).map fun
    | .char c => c
    | _ => '\ufffd')

structure Utf8Error where
  -- How many bytes before it are UTF-8.
  validUpTo : Nat
  -- Its length, or `none` if a character stops at the end of the bytes.
  length : Option Nat
  deriving DecidableEq, Repr

def Utf8Error.message (e : Utf8Error) : String :=
  match e.length with
  | some n =>
    "invalid utf-8 sequence of " ++ toString n ++ " bytes from index " ++ toString e.validUpTo
  | none => "incomplete utf-8 byte sequence from index " ++ toString e.validUpTo

def charsOfPieces (offset : Nat) : List Utf8Piece → Except Utf8Error (List Char)
  | [] => .ok []
  | .char c :: ps => (charsOfPieces (offset + c.utf8Size) ps).map (c :: ·)
  | .invalid n :: _ => .error ⟨offset, some n⟩
  | .incomplete _ :: _ => .error ⟨offset, none⟩

def decode (bytes : List UInt8) : Except Utf8Error String :=
  (charsOfPieces 0 (utf8Pieces bytes)).map .ofList

end Callout.Text
