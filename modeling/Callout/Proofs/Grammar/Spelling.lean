import Callout.Proofs.Grammar.Rewriting
import Callout.Proofs.Text.Spelling

namespace Callout

namespace Element

/-- The same element with its phrases spelled in another way. -/
inductive Respelled : Element → Element → Prop where
  | phrase {text text' : String} (respelled : Text.Respelled text text') :
      Respelled (.phrase text) (.phrase text')
  | oneOf {es fs : List Element} (alternatives : List.Forall₂ Respelled es fs) :
      Respelled (.oneOf es) (.oneOf fs)
  | sequence {es fs : List Element} (parts : List.Forall₂ Respelled es fs) :
      Respelled (.sequence es) (.sequence fs)
  | ruleRef (rule : String) : Respelled (.ruleRef rule) (.ruleRef rule)
  | repetition {e f : Element} (min : Nat) (max : Option Nat) (inner : Respelled e f) :
      Respelled (.repetition e min max) (.repetition f min max)
  | tag (t : Tag) : Respelled (.tag t) (.tag t)

theorem Respelled.paths_eq {e f : Element} (respelled : Respelled e f) (refs : String → Step) :
    f.paths refs = e.paths refs := by
  have each {es fs : List Element} (all : List.Forall₂ Respelled es fs)
      (ih : ∀ e ∈ es, ∀ f, Respelled e f → f.paths refs = e.paths refs) :
      List.Forall₂ (fun e f => f.paths refs = e.paths refs) es fs :=
    ((List.forall₂_and_left es fs).mpr ⟨ih, all⟩).imp fun _ f both => both.1 f both.2
  induction e using Element.structural generalizing f with
  | phrase text =>
    cases respelled with
    | phrase respelled => rw [paths, paths, respelled.words_eq]
  | oneOf es ih =>
    cases respelled with
    | oneOf alternatives =>
      exact pathsOfAny_of_forall₂ (each alternatives fun e member _ => ih e member)
  | sequence es ih =>
    cases respelled with
    | sequence parts => exact pathsOfAll_of_forall₂ (each parts fun e member _ => ih e member)
  | ruleRef rule =>
    cases respelled
    rfl
  | repetition e min max ih =>
    cases respelled with
    | repetition _ _ inner => rw [paths, paths, ih inner]
  | tag t =>
    cases respelled
    rfl

end Element

structure Rule.Respelled (r s : Rule) : Prop where
  id : s.id = r.id
  body : r.body.Respelled s.body

theorem Rule.Respelled.alike {r s : Rule} (respelled : r.Respelled s) : r.Alike s :=
  ⟨respelled.id, respelled.body.paths_eq⟩

namespace Grammar

structure Respelled (g h : Grammar) : Prop where
  root : h.root = g.root
  rules : List.Forall₂ Rule.Respelled g.rules h.rules

variable {g h : Grammar}

theorem Respelled.interpret_eq (respelled : g.Respelled h) {u v : String}
    (spoken : Text.Respelled u v) : g.interpret u = h.interpret v := by
  have alike : List.Forall₂ Rule.Alike g.rules h.rules :=
    respelled.rules.imp fun _ _ same => same.alike
  have phrases : h.interpret v = g.interpret v := interpret_of_alike alike respelled.root v
  rw [phrases, interpret, interpret, spoken.words_eq]

/-- White space inside a text divides its words, every spelling of a text has the same words, and an
utterance means the same however it is spelled and however the phrases of the grammar are. -/
theorem interpret_respelled :
    (∀ a b blank : String, blank ≠ "" → Text.Blank blank.toList →
      Text.words (a ++ blank ++ b) = Text.words a ++ Text.words b) ∧
    (∀ s t, Text.Respelled s t → Text.words s = Text.words t) ∧
    ∀ g h : Grammar, g.Respelled h → ∀ u v, Text.Respelled u v → g.interpret u = h.interpret v := by
  refine ⟨?_, ?_, ?_⟩
  · intro a b blank filled spaces
    exact Text.words_append_blank a b filled spaces
  · intro s t respelled
    exact respelled.words_eq
  · intro g h respelled u v spoken
    exact respelled.interpret_eq spoken

def halt (unit order : String) : Grammar :=
  ⟨"en-US",
    [⟨"order", .shared,
      .sequence [.optional (.phrase unit), .phrase order, .literalTag commandField "HALT"]⟩],
    "order"⟩

theorem interpret_respelled_halt :
    (halt "unit one" "halt").Respelled (halt "unit  (one)" "HALT") ∧
      Text.Respelled "unit one halt" "unit one - halt" ∧
      (halt "unit one" "halt").interpret "unit one halt" =
        (halt "unit  (one)" "HALT").interpret "unit one - halt" ∧
      ((halt "unit one" "halt").interpret "unit one halt").isSome := by
  have order : Text.Respelled "halt" "HALT" := .rel _ _ (.recase (by decide))
  have unit : Text.Respelled "unit one" "unit  (one)" := by
    have spaced : Text.Respells "unit one".toList "unit  one".toList :=
      @Text.Respells.space "unit".toList " one".toList [' '] (.inr (by decide)) (by decide)
    have marked : Text.Respells "unit  one".toList "unit  (one)".toList :=
      @Text.Respells.mark "unit  ".toList [] ['('] "one".toList [')'] (by decide) (by decide)
        (by decide) (by decide) (by decide)
    exact .trans _ _ _ (.rel _ _ spaced) (.rel _ _ marked)
  have spoken : Text.Respelled "unit one halt" "unit one - halt" :=
    .rel _ _ (@Text.Respells.word "unit one".toList " halt".toList [' '] ['-'] [] (.inr (by decide))
      (by decide) (by decide) (by decide) (by decide) (by decide))
  have same : (halt "unit one" "halt").Respelled (halt "unit  (one)" "HALT") := by
    refine ⟨rfl, .cons ⟨rfl, .sequence ?_⟩ .nil⟩
    exact .cons (.repetition 0 (some 1) (.phrase unit))
      (.cons (.phrase order) (.cons (.tag _) .nil))
  exact ⟨same, spoken, interpret_respelled.2.2 _ _ same _ _ spoken, by decide +kernel⟩

end Grammar

end Callout
