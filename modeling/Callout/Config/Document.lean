import Callout.Config.Basic
import Callout.Toml.Printer
import Callout.Toml.Reader

namespace Callout

open Toml

namespace Config

def sections (c : Config) : List Section :=
  [⟨"input", [("key_press_delay_ms", .integer c.input.keyPressDelay),
      ("prefer_backend", .string c.input.preferBackend)]⟩,
   ⟨"grammar", [("culture", .string c.grammar.culture),
      ("max_subjects", .integer c.grammar.maxSubjects)]⟩,
   ⟨"recognition", [("start_listening", .boolean c.recognition.startListening)]⟩]

/-- The document for some settings. Their delay may be too large for an integer of TOML. -/
def write? (c : Config) : Option String :=
  if c.input.keyPressDelay ≤ maxInteger then some (render c.sections) else none

def isSection : Value → Bool
  | .table _ _ | .tables _ _ | .array _ | .scalar (.datetime _) => true
  | .scalar _ => false

/-- A field of a section: by its name, or by its position if the section is an array. -/
def field? (s : Value) (name : String) (position : Nat) : Option Value :=
  match s with
  | .table _ entries => entries.lookup name
  | .array items => items[position]?
  | .tables earlier last => (earlier ++ [last])[position]?.map (.table .explicit)
  | .scalar _ => none

def natural? (most : Nat) : Value → Option Nat
  | .scalar (.integer n) => if 0 ≤ n ∧ n ≤ most then some n.toNat else none
  | _ => none

def string? : Value → Option String
  | .scalar (.string s) => some s
  | _ => none

def boolean? : Value → Option Bool
  | .scalar (.boolean b) => some b
  | _ => none

def readOr {α : Type} (default : α) (read : Value → Option α) : Option Value → Option α
  | none => some default
  | some v => read v

def readInput? (s : Value) : Option InputConfig := do
  if !isSection s then none
  let d : InputConfig := {}
  return {
    keyPressDelay :=
      ← readOr d.keyPressDelay (natural? 0xFFFFFFFFFFFFFFFF) (field? s "key_press_delay_ms" 0)
    preferBackend := ← readOr d.preferBackend string? (field? s "prefer_backend" 1) }

def readGrammar? (s : Value) : Option GrammarConfig := do
  if !isSection s then none
  let d : GrammarConfig := {}
  return {
    culture := ← readOr d.culture string? (field? s "culture" 0)
    maxSubjects := ← readOr d.maxSubjects (natural? 0xFFFFFFFF) (field? s "max_subjects" 1) }

def readRecognition? (s : Value) : Option RecognitionConfig := do
  if !isSection s then none
  let d : RecognitionConfig := {}
  return { startListening := ← readOr d.startListening boolean? (field? s "start_listening" 0) }

def ofTable? (t : Table) : Option Config := do
  return {
    input := ← readOr {} readInput? (t.lookup "input")
    grammar := ← readOr {} readGrammar? (t.lookup "grammar")
    recognition := ← readOr {} readRecognition? (t.lookup "recognition") }

def parse? (text : String) : Option Config :=
  (Toml.parse? text).bind ofTable?

end Config

end Callout
