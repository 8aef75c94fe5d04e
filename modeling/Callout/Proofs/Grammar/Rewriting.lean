import Callout.Proofs.Grammar.Reference
import Mathlib.Data.List.Forall2

namespace Callout

theorem Path.repeated_once (step : Step) : Path.repeated step 1 (some 1) = step := by
  funext p
  show Path.rounds step 0 ([p].flatMap step) = step p
  rw [Path.rounds, List.flatMap_singleton]

namespace Element

/-- Two ways to write the same element. -/
inductive Law : Element → Element → Prop where
  | flattenSequence (before inner after : List Element) :
      Law (.sequence (before ++ .sequence inner :: after)) (.sequence (before ++ inner ++ after))
  | flattenOneOf (before inner after : List Element) :
      Law (.oneOf (before ++ .oneOf inner :: after)) (.oneOf (before ++ inner ++ after))
  | onePart (e : Element) : Law (.sequence [e]) e
  | oneAlternative (e : Element) : Law (.oneOf [e]) e
  | oneRound (e : Element) : Law (.repetition e 1 (some 1)) e

/-- A law is used at one place, however deep inside an element. -/
inductive Rewrites : Element → Element → Prop where
  | law {e e' : Element} (law : Law e e') : Rewrites e e'
  | oneOf {e e' : Element} (before after : List Element) (inner : Rewrites e e') :
      Rewrites (.oneOf (before ++ e :: after)) (.oneOf (before ++ e' :: after))
  | sequence {e e' : Element} (before after : List Element) (inner : Rewrites e e') :
      Rewrites (.sequence (before ++ e :: after)) (.sequence (before ++ e' :: after))
  | repetition {e e' : Element} (min : Nat) (max : Option Nat) (inner : Rewrites e e') :
      Rewrites (.repetition e min max) (.repetition e' min max)

variable {refs : String → Step} {e e' : Element}

theorem pathsOfAll_append (refs : String → Step) (es fs : List Element) (p : Path) :
    pathsOfAll refs (es ++ fs) p = (pathsOfAll refs es p).flatMap (pathsOfAll refs fs) := by
  induction es generalizing p with
  | nil => rw [List.nil_append, pathsOfAll, List.flatMap_singleton]
  | cons e es ih =>
    rw [List.cons_append, pathsOfAll, pathsOfAll, List.flatMap_assoc]
    exact List.flatMap_congr fun q _ => ih q

theorem pathsOfAll_singleton (e : Element) : pathsOfAll refs [e] = e.paths refs := by
  funext p
  exact List.flatMap_singleton' (e.paths refs p)

theorem pathsOfAny_singleton (e : Element) : pathsOfAny refs [e] = e.paths refs := by
  funext p
  exact List.append_nil (e.paths refs p)

theorem Law.paths_eq (law : Law e e') (refs : String → Step) : e'.paths refs = e.paths refs := by
  cases law with
  | flattenSequence before inner after =>
    funext p
    simp only [paths, pathsOfAll_append, pathsOfAll, List.flatMap_assoc]
  | flattenOneOf before inner after =>
    funext p
    simp only [paths, pathsOfAny_append, pathsOfAny, List.append_assoc]
  | onePart => rw [paths, pathsOfAll_singleton]
  | oneAlternative => rw [paths, pathsOfAny_singleton]
  | oneRound => rw [paths, Path.repeated_once]

theorem Rewrites.paths_eq (rewritten : Rewrites e e') (refs : String → Step) :
    e'.paths refs = e.paths refs := by
  induction rewritten with
  | law law => exact law.paths_eq refs
  | oneOf before after _ ih =>
    funext p
    simp only [paths, pathsOfAny_append, pathsOfAny, ih]
  | sequence before after _ ih =>
    funext p
    simp only [paths, pathsOfAll_append, pathsOfAll, ih]
  | repetition min max _ ih => rw [paths, paths, ih]

end Element

structure Rule.Alike (r s : Rule) : Prop where
  id : s.id = r.id
  paths : ∀ refs, s.body.paths refs = r.body.paths refs

theorem Rule.Alike.refl (r : Rule) : r.Alike r :=
  ⟨rfl, fun _ => rfl⟩

namespace Grammar

inductive Rewrites (g : Grammar) : Grammar → Prop where
  | rule {before after : List Rule} {r : Rule} {body : Element}
      (rules : g.rules = before ++ r :: after) (inner : r.body.Rewrites body) :
      Rewrites g { g with rules := before ++ { r with body } :: after }

variable {g h : Grammar}

theorem rule?_of_alike (alike : List.Forall₂ Rule.Alike g.rules h.rules) (id : String) :
    Option.Rel Rule.Alike (g.rule? id) (h.rule? id) := by
  unfold rule?
  generalize g.rules = rs, h.rules = ss at alike
  induction alike with
  | nil => exact .none
  | @cons r s rs ss first _ ih =>
    rw [List.find?_cons, List.find?_cons, first.id]
    cases r.id == id with
    | true => exact .some first
    | false => exact ih

theorem refPaths_of_alike (alike : List.Forall₂ Rule.Alike g.rules h.rules) (n : Nat) :
    h.refPaths n = g.refPaths n := by
  induction n with
  | zero => rfl
  | succ n ih =>
    funext id
    have same := rule?_of_alike alike id
    rw [refPaths, refPaths, ih]
    generalize g.rule? id = r?, h.rule? id = s? at same
    cases same with
    | none => rfl
    | some first => exact first.paths _

theorem interpret_of_alike (alike : List.Forall₂ Rule.Alike g.rules h.rules)
    (root : h.root = g.root) (utterance : String) :
    h.interpret utterance = g.interpret utterance := by
  apply interpret_of_refPaths_eq
  rw [refPaths_of_alike alike, root]

theorem Rewrites.alike (rewritten : g.Rewrites h) :
    List.Forall₂ Rule.Alike g.rules h.rules ∧ h.root = g.root := by
  obtain ⟨rules, inner⟩ := rewritten
  rw [rules]
  refine ⟨?_, rfl⟩
  have kept (rs : List Rule) : List.Forall₂ Rule.Alike rs rs :=
    List.forall₂_same.mpr fun r _ => .refl r
  exact List.rel_append (kept _) (.cons ⟨rfl, inner.paths_eq⟩ (kept _))

/-- Wherever a grammar is rewritten, the paths of every element stay the same, whatever the limit to
the nesting of references, and so do those of the element that is rewritten; so every utterance
means the same. -/
theorem interpret_of_rewrites (rewritten : g.Rewrites h) :
    (∀ (n : Nat) (e : Element), e.paths (h.refPaths n) = e.paths (g.refPaths n)) ∧
    (∀ (n : Nat) (e e' : Element), e.Rewrites e' →
      e'.paths (h.refPaths n) = e.paths (g.refPaths n)) ∧
    ∀ utterance, h.interpret utterance = g.interpret utterance := by
  obtain ⟨alike, root⟩ := rewritten.alike
  have refs := refPaths_of_alike alike
  refine ⟨?_, ?_, interpret_of_alike alike root⟩
  · intro n e
    rw [refs]
  · intro n e e' rewritten
    rw [refs, rewritten.paths_eq]

def unitRule : Rule :=
  ⟨"unit", .internal,
    .oneOf [.sequence [.phrase "one", .literalTag subjectField "ONE"],
      .sequence [.phrase "two", .literalTag subjectField "TWO"]]⟩

def haltBody (unit : Element) : Element :=
  .sequence [.repetition unit 1 none, .phrase "halt", .literalTag commandField "HALT"]

def roll (unit : Element) : Grammar :=
  ⟨"en-US", [unitRule, ⟨"order", .shared, haltBody unit⟩], "order"⟩

theorem interpret_of_rewrites_roll :
    ∃ unit unit', (roll unit).Rewrites (roll unit') ∧
      (roll unit').interpret "One and two: halt!" = (roll unit).interpret "One and two: halt!" ∧
      ((roll unit).interpret "One and two: halt!").isSome := by
  let also : Element := .optional (.phrase "and")
  have flat : Element.Rewrites (.sequence [.ruleRef "unit", .sequence [also]])
      (.sequence [.ruleRef "unit", also]) :=
    .law (.flattenSequence [.ruleRef "unit"] [also] [])
  have inner : (haltBody (.sequence [.ruleRef "unit", .sequence [also]])).Rewrites
      (haltBody (.sequence [.ruleRef "unit", also])) :=
    .sequence [] _ (.repetition 1 none flat)
  have parts : (roll (.sequence [.ruleRef "unit", .sequence [also]])).rules =
      [unitRule] ++ ⟨"order", .shared, haltBody _⟩ :: [] := rfl
  have rewritten : (roll (.sequence [.ruleRef "unit", .sequence [also]])).Rewrites
      (roll (.sequence [.ruleRef "unit", also])) := .rule parts inner
  obtain ⟨_, _, same⟩ := interpret_of_rewrites rewritten
  exact ⟨_, _, rewritten, same _, by decide +kernel⟩

end Grammar

end Callout
