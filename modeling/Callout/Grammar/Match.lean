import Callout.Grammar.Basic
import Callout.Text.Words

namespace Callout

structure Path where
  rest : List String
  assigned : List (String × String)
  deriving DecidableEq, Repr

/-- All ways to continue a path, the preferred ones first. -/
abbrev Step := Path → List Path

namespace Path

def after? : List String → List String → Option (List String)
  | [], rest => some rest
  | _ :: _, [] => none
  | w :: ws, r :: rest => if w = r then after? ws rest else none

theorem after?_eq_some_iff {ws l rest : List String} :
    after? ws l = some rest ↔ l = ws ++ rest := by
  induction ws generalizing l with
  | nil => simp [after?]
  | cons w ws ih =>
    cases l with
    | nil => simp [after?]
    | cons r l => by_cases h : w = r <;> simp [after?, h, ih, eq_comm]

def takeWords (ws : List String) : Step := fun p =>
  match after? ws p.rest with
  | some rest => [{ p with rest := rest }]
  | none => []

def assign (t : Tag) : Step := fun p =>
  match t.value with
  | .literal value => [{ p with assigned := p.assigned ++ [(t.field, value)] }]
  | .ruleOutput _ => [p]

def rounds (step : Step) : Nat → List Path → List Path
  | 0, paths => paths
  | _ + 1, [] => []
  | n + 1, path :: paths => rounds step n ((path :: paths).flatMap step)

def consuming (step : Step) : Step := fun p =>
  (step p).filter (·.rest.length < p.rest.length)

/-- Up to `n` further rounds, each of which has to use up words. Fewer rounds come first. -/
def furtherRounds (step : Step) : Nat → List Path → List Path
  | 0, paths => paths
  | _ + 1, [] => []
  | n + 1, path :: paths =>
    (path :: paths) ++ furtherRounds step n ((path :: paths).flatMap (consuming step))

/-- At least `min` and at most `max` rounds. A round past the minimum uses up a word, so there are
never more of them than words. -/
def repeated (step : Step) (min : Nat) (max : Option Nat) : Step := fun p =>
  match max with
  | none => furtherRounds step p.rest.length (rounds step min [p])
  | some max => if max < min then [] else furtherRounds step (max - min) (rounds step min [p])

end Path

namespace Element

mutual

def paths (refs : String → Step) : Element → Step
  | phrase text => Path.takeWords (Text.words text)
  | oneOf alternatives => pathsOfAny refs alternatives
  | sequence parts => pathsOfAll refs parts
  | ruleRef rule => refs rule
  | repetition inner min max => Path.repeated (inner.paths refs) min max
  | tag t => Path.assign t

def pathsOfAny (refs : String → Step) : List Element → Step
  | [] => fun _ => []
  | e :: es => fun p => e.paths refs p ++ pathsOfAny refs es p

def pathsOfAll (refs : String → Step) : List Element → Step
  | [] => fun p => [p]
  | e :: es => fun p => (e.paths refs p).flatMap (pathsOfAll refs es)

end

end Element

namespace Grammar

def maxNesting : Nat := 32

/-- What the rule `id` matches when at most `nesting` references are opened, its own included. -/
def refPaths (g : Grammar) (nesting : Nat) (id : String) : Step :=
  match nesting with
  | 0 => fun _ => []
  | nesting + 1 =>
    match g.rule? id with
    | some rule => rule.body.paths (g.refPaths nesting)
    | none => fun _ => []

/-- The entries of the preferred match of all the words. No words match nothing. -/
def assignments? (g : Grammar) (words : List String) : Option (List (String × String)) :=
  match g.rootRule?, words with
  | none, _ | _, [] => none
  | some root, _ :: _ =>
    ((root.body.paths (g.refPaths maxNesting) ⟨words, []⟩).find? (·.rest.isEmpty)).map (·.assigned)

end Grammar

end Callout
