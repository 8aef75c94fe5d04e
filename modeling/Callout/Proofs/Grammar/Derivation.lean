import Callout.Grammar.Match

namespace Callout

/-- Words with the entries that go with them. -/
abbrev Language := List String → List (String × String) → Prop

/-- Induction on the structure of an element, for all alternatives and all parts at once. -/
@[elab_as_elim]
theorem Element.structural {motive : Element → Prop}
    (phrase : ∀ text, motive (.phrase text))
    (oneOf : ∀ alternatives, (∀ e ∈ alternatives, motive e) → motive (.oneOf alternatives))
    (sequence : ∀ parts, (∀ e ∈ parts, motive e) → motive (.sequence parts))
    (ruleRef : ∀ rule, motive (.ruleRef rule))
    (repetition : ∀ inner min max, motive inner → motive (.repetition inner min max))
    (tag : ∀ t, motive (.tag t)) (e : Element) : motive e := by
  refine @Element.rec motive (fun es => ∀ e ∈ es, motive e) phrase oneOf sequence ruleRef
    repetition tag ?_ ?_ e
  · intro e member
    cases member
  · intro first others head tail e member
    rcases List.mem_cons.mp member with rfl | member
    · exact head
    · exact tail e member

namespace Grammar

/-- A derivation of some words from an element, in which at most `n` references to rules are nested
inside one another. Its literal tags, from left to right, write the given entries. -/
inductive Derives (g : Grammar) : Nat → Element → Language where
  | phrase {n : Nat} (text : String) : Derives g n (.phrase text) (Text.words text) []
  | oneOf {n : Nat} {e : Element} {alternatives : List Element} {ws : List String}
      {a : List (String × String)} (member : e ∈ alternatives) (chosen : Derives g n e ws a) :
      Derives g n (.oneOf alternatives) ws a
  | nil {n : Nat} : Derives g n (.sequence []) [] []
  | cons {n : Nat} {e : Element} {es : List Element} {ws vs : List String}
      {a b : List (String × String)} (head : Derives g n e ws a)
      (tail : Derives g n (.sequence es) vs b) :
      Derives g n (.sequence (e :: es)) (ws ++ vs) (a ++ b)
  | ruleRef {n : Nat} {id : String} {rule : Rule} {ws : List String} {a : List (String × String)}
      (found : g.rule? id = some rule) (body : Derives g n rule.body ws a) :
      Derives g (n + 1) (.ruleRef id) ws a
  | repetition {n : Nat} {inner : Element} {min : Nat} {max : Option Nat} {ws : List String}
      {a : List (String × String)} (count : Nat) (least : min ≤ count)
      (most : ∀ m ∈ max, count ≤ m)
      (rounds : Derives g n (.sequence (List.replicate count inner)) ws a) :
      Derives g n (.repetition inner min max) ws a
  | literal {n : Nat} (field value : String) :
      Derives g n (.literalTag field value) [] [(field, value)]
  | ruleOutput {n : Nat} (field rule : String) : Derives g n (.ruleTag field rule) [] []

variable {g : Grammar} {n : Nat} {ws : List String} {a : List (String × String)}

theorem derives_phrase {text : String} :
    g.Derives n (.phrase text) ws a ↔ ws = Text.words text ∧ a = [] := by
  constructor
  · intro known
    cases known
    exact ⟨rfl, rfl⟩
  · intro known
    obtain ⟨rfl, rfl⟩ := known
    exact .phrase text

theorem derives_oneOf {alternatives : List Element} :
    g.Derives n (.oneOf alternatives) ws a ↔ ∃ e ∈ alternatives, g.Derives n e ws a := by
  constructor
  · intro known
    rcases known with _ | ⟨member, chosen⟩
    exact ⟨_, member, chosen⟩
  · intro known
    obtain ⟨e, member, chosen⟩ := known
    exact .oneOf member chosen

theorem derives_nil : g.Derives n (.sequence []) ws a ↔ ws = [] ∧ a = [] := by
  constructor
  · intro known
    cases known
    exact ⟨rfl, rfl⟩
  · intro known
    obtain ⟨rfl, rfl⟩ := known
    exact .nil

theorem derives_cons {e : Element} {es : List Element} :
    g.Derives n (.sequence (e :: es)) ws a ↔ ∃ vs us b c, ws = vs ++ us ∧ a = b ++ c ∧
      g.Derives n e vs b ∧ g.Derives n (.sequence es) us c := by
  constructor
  · intro h
    cases h with
    | cons head tail => exact ⟨_, _, _, _, rfl, rfl, head, tail⟩
  · intro known
    obtain ⟨vs, us, b, c, rfl, rfl, head, tail⟩ := known
    exact .cons head tail

theorem derives_append {es fs : List Element} :
    g.Derives n (.sequence (es ++ fs)) ws a ↔ ∃ vs us b c, ws = vs ++ us ∧ a = b ++ c ∧
      g.Derives n (.sequence es) vs b ∧ g.Derives n (.sequence fs) us c := by
  induction es generalizing ws a with
  | nil =>
    simp only [List.nil_append, derives_nil]
    constructor
    · intro h
      exact ⟨[], ws, [], a, rfl, rfl, ⟨rfl, rfl⟩, h⟩
    · intro known
      obtain ⟨_, us, _, c, rfl, rfl, ⟨rfl, rfl⟩, h⟩ := known
      exact h
  | cons e es ih =>
    simp only [List.cons_append, derives_cons, ih]
    constructor
    · intro known
      obtain ⟨vs, _, b, _, rfl, rfl, head, us, xs, c, d, rfl, rfl, left, right⟩ := known
      exact ⟨vs ++ us, xs, b ++ c, d, by simp, by simp, ⟨vs, us, b, c, rfl, rfl, head, left⟩, right⟩
    · intro known
      obtain ⟨_, xs, _, d, rfl, rfl, ⟨vs, us, b, c, rfl, rfl, head, left⟩, right⟩ := known
      exact ⟨vs, us ++ xs, b, c ++ d, by simp, by simp, head, us, xs, c, d, rfl, rfl, left, right⟩

theorem derives_singleton {e : Element} :
    g.Derives n (.sequence [e]) ws a ↔ g.Derives n e ws a := by
  rw [derives_cons]
  constructor
  · intro known
    obtain ⟨vs, us, b, c, rfl, rfl, head, tail⟩ := known
    obtain ⟨rfl, rfl⟩ := derives_nil.mp tail
    simpa using head
  · intro h
    exact ⟨ws, [], a, [], by simp, by simp, h, .nil⟩

theorem derives_ruleRef {id : String} :
    g.Derives n (.ruleRef id) ws a ↔
      ∃ m rule, n = m + 1 ∧ g.rule? id = some rule ∧ g.Derives m rule.body ws a := by
  constructor
  · intro h
    cases h with
    | ruleRef found body => exact ⟨_, _, rfl, found, body⟩
  · intro known
    obtain ⟨m, rule, rfl, found, body⟩ := known
    exact .ruleRef found body

theorem derives_repetition {inner : Element} {min : Nat} {max : Option Nat} :
    g.Derives n (.repetition inner min max) ws a ↔ ∃ count, min ≤ count ∧ (∀ m ∈ max, count ≤ m) ∧
      g.Derives n (.sequence (List.replicate count inner)) ws a := by
  constructor
  · intro h
    cases h with
    | repetition count least most rounds => exact ⟨count, least, most, rounds⟩
  · intro known
    obtain ⟨count, least, most, rounds⟩ := known
    exact .repetition count least most rounds

theorem derives_literalTag {field value : String} :
    g.Derives n (.literalTag field value) ws a ↔ ws = [] ∧ a = [(field, value)] := by
  constructor
  · intro known
    cases known
    exact ⟨rfl, rfl⟩
  · intro known
    obtain ⟨rfl, rfl⟩ := known
    exact .literal field value

theorem derives_ruleTag {field rule : String} :
    g.Derives n (.ruleTag field rule) ws a ↔ ws = [] ∧ a = [] := by
  constructor
  · intro known
    cases known
    exact ⟨rfl, rfl⟩
  · intro known
    obtain ⟨rfl, rfl⟩ := known
    exact .ruleOutput field rule

end Grammar

end Callout
