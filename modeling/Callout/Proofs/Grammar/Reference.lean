import Callout.Command
import Callout.Grammar.Interpret
import Callout.Proofs.Grammar.Derivation
import Mathlib.Data.List.Forall2

namespace Callout

namespace Element

variable {refs refs' : String → Step} {es fs : List Element} {id : String}

theorem mem_referencedRulesOfAll :
    id ∈ referencedRulesOfAll es ↔ ∃ e ∈ es, id ∈ e.referencedRules := by
  induction es with
  | nil => simp [referencedRulesOfAll]
  | cons e es ih => simp [referencedRulesOfAll, ih]

theorem referencedRulesOfAll_eq_nil (bare : ∀ e ∈ es, e.referencedRules = []) :
    referencedRulesOfAll es = [] := by
  rw [List.eq_nil_iff_forall_not_mem]
  intro id referenced
  obtain ⟨e, member, referenced⟩ := mem_referencedRulesOfAll.mp referenced
  rw [bare e member] at referenced
  cases referenced

theorem referencedRulesOfAll_phrases (phrases : List String) :
    referencedRulesOfAll (phrases.map .phrase) = [] := by
  apply referencedRulesOfAll_eq_nil
  intro e member
  obtain ⟨phrase, _, rfl⟩ := List.mem_map.mp member
  rfl

theorem pathsOfAny_of_forall₂
    (same : List.Forall₂ (fun e f => f.paths refs' = e.paths refs) es fs) :
    pathsOfAny refs' fs = pathsOfAny refs es := by
  induction same with
  | nil => rfl
  | cons first _ ih => rw [pathsOfAny, pathsOfAny, first, ih]

theorem pathsOfAll_of_forall₂
    (same : List.Forall₂ (fun e f => f.paths refs' = e.paths refs) es fs) :
    pathsOfAll refs' fs = pathsOfAll refs es := by
  induction same with
  | nil => rfl
  | cons first _ ih => rw [pathsOfAll, pathsOfAll, first, ih]

theorem pathsOfAny_map {f : Element → Element}
    (same : ∀ e ∈ es, (f e).paths refs = e.paths refs') :
    pathsOfAny refs (es.map f) = pathsOfAny refs' es :=
  pathsOfAny_of_forall₂ (List.forall₂_map_right_iff.mpr (List.forall₂_same.mpr same))

theorem pathsOfAll_map {f : Element → Element}
    (same : ∀ e ∈ es, (f e).paths refs = e.paths refs') :
    pathsOfAll refs (es.map f) = pathsOfAll refs' es :=
  pathsOfAll_of_forall₂ (List.forall₂_map_right_iff.mpr (List.forall₂_same.mpr same))

theorem pathsOfAny_congr (same : ∀ e ∈ es, e.paths refs = e.paths refs') :
    pathsOfAny refs es = pathsOfAny refs' es := by
  have mapped := pathsOfAny_map (f := id) same
  rwa [List.map_id] at mapped

theorem pathsOfAll_congr (same : ∀ e ∈ es, e.paths refs = e.paths refs') :
    pathsOfAll refs es = pathsOfAll refs' es := by
  have mapped := pathsOfAll_map (f := id) same
  rwa [List.map_id] at mapped

theorem pathsOfAny_append (refs : String → Step) (es fs : List Element) (p : Path) :
    pathsOfAny refs (es ++ fs) p = pathsOfAny refs es p ++ pathsOfAny refs fs p := by
  induction es with
  | nil => rfl
  | cons e es ih => simp only [List.cons_append, pathsOfAny, ih, List.append_assoc]

theorem paths_congr {e : Element} (agree : ∀ id ∈ e.referencedRules, refs id = refs' id) :
    e.paths refs = e.paths refs' := by
  induction e using Element.structural with
  | phrase text => rfl
  | oneOf alternatives ih =>
    rw [paths, paths]
    apply pathsOfAny_congr
    intro e member
    apply ih e member
    intro id referenced
    exact agree id (mem_referencedRulesOfAll.mpr ⟨e, member, referenced⟩)
  | sequence parts ih =>
    rw [paths, paths]
    apply pathsOfAll_congr
    intro e member
    apply ih e member
    intro id referenced
    exact agree id (mem_referencedRulesOfAll.mpr ⟨e, member, referenced⟩)
  | ruleRef rule => exact agree rule (List.mem_singleton_self rule)
  | repetition inner min max ih => rw [paths, paths, ih agree]
  | tag t => rfl

end Element

namespace Grammar

/-- Two grammars with the same rules for some ids match the same with them, as long as these rules
refer to none but each other. -/
theorem refPaths_congr {g g' : Grammar} {known : String → Prop}
    (closed : ∀ id, known id → ∀ rule, g.rule? id = some rule →
      ∀ other ∈ rule.body.referencedRules, known other)
    (agree : ∀ id, known id → (g.rule? id).map (·.body) = (g'.rule? id).map (·.body))
    (n : Nat) {id : String} (here : known id) : g.refPaths n id = g'.refPaths n id := by
  -- On the nesting: what a known rule refers to is known as well, and one level further down.
  induction n generalizing id with
  | zero => rfl
  | succ n ih =>
    have same := agree id here
    unfold refPaths
    cases found : g.rule? id with
    | none =>
      rw [found, Option.map_none] at same
      rw [Option.map_eq_none_iff.mp same.symm]
    | some rule =>
      rw [found, Option.map_some] at same
      obtain ⟨rule', found', body⟩ := Option.map_eq_some_iff.mp same.symm
      rw [found']
      simp only [body]
      apply Element.paths_congr
      intro other referenced
      exact ih (closed id here rule found other referenced)

def meaning? (g : Grammar) (refs : String → Step) (utterance : String) : Option SemanticResult :=
  if Text.words utterance = [] then none
  else ((refs g.root ⟨Text.words utterance, []⟩).find? (·.rest.isEmpty)).map
    fun p => .ofAssignments p.assigned

theorem interpret_eq_meaning? (g : Grammar) (utterance : String) :
    g.interpret utterance = g.meaning? (g.refPaths (maxNesting + 1)) utterance := by
  unfold interpret assignments? rootRule? meaning? refPaths
  cases g.rule? g.root with
  | none => simp
  | some root =>
    cases Text.words utterance with
    | nil => rfl
    | cons w ws => simp [Function.comp_def]

theorem interpret_of_refPaths_eq {g h : Grammar}
    (same : g.refPaths (maxNesting + 1) g.root = h.refPaths (maxNesting + 1) h.root)
    (utterance : String) : g.interpret utterance = h.interpret utterance := by
  rw [interpret_eq_meaning?, interpret_eq_meaning?, meaning?, meaning?, same]

/-- Rules that the root rule does not refer to, directly or through others, make no difference to
the meaning of an utterance, nor does the order of the rules. -/
theorem interpret_congr {g h : Grammar} {known : String → Prop} (root : g.root = h.root)
    (here : known g.root)
    (closed : ∀ id, known id → ∀ rule, g.rule? id = some rule →
      ∀ other ∈ rule.body.referencedRules, known other)
    (agree : ∀ id, known id → (g.rule? id).map (·.body) = (h.rule? id).map (·.body))
    (utterance : String) : g.interpret utterance = h.interpret utterance := by
  apply interpret_of_refPaths_eq
  rw [← root]
  exact refPaths_congr closed agree (maxNesting + 1) here

def halting : Grammar where
  culture := "en-US"
  rules :=
    [⟨"order", .shared,
        .sequence [.ruleRef "units", .phrase "halt", .literalTag commandField "HALT"]⟩,
      ⟨"units", .internal,
        .oneOf [.sequence [.ruleRef "unit", .ruleRef "units"], .ruleRef "unit"]⟩,
      ⟨"unit", .internal,
        .oneOf [.sequence [.phrase "one", .literalTag subjectField "ONE"],
          .sequence [.phrase "two", .literalTag subjectField "TWO"]]⟩]
  root := "order"

def cluttered : Grammar where
  culture := "en-GB"
  rules :=
    halting.rules.reverse ++
      [⟨"song", .internal, .repetition (.ruleRef "song") 0 none⟩,
        ⟨"unit", .shared, .phrase "halt"⟩]
  root := "order"

theorem interpret_congr_cluttered :
    halting.interpret "One, two, one: halt!" = cluttered.interpret "One, two, one: halt!" ∧
      (halting.interpret "One, two, one: halt!").isSome := by
  let known (id : String) : Prop := id = "order" ∨ id = "units" ∨ id = "unit"
  have closed : ∀ id, known id → ∀ rule, halting.rule? id = some rule →
      ∀ other ∈ rule.body.referencedRules, known other := by
    rintro id (rfl | rfl | rfl) rule found <;> cases found <;> decide
  have agree : ∀ id, known id →
      (halting.rule? id).map (·.body) = (cluttered.rule? id).map (·.body) := by
    rintro id (rfl | rfl | rfl) <;> rfl
  have root : halting.root = cluttered.root := rfl
  have here : known halting.root := .inl rfl
  exact ⟨interpret_congr root here closed agree _, by decide +kernel⟩

end Grammar

theorem Slot.referencedRules_rule (s : Slot) : s.rule.body.referencedRules = [] := by
  have choice : (Element.oneOf (s.entries.map s.alternative)).referencedRules = [] := by
    apply Element.referencedRulesOfAll_eq_nil
    intro e member
    obtain ⟨entry, _, rfl⟩ := List.mem_map.mp member
    simp [alternative, Element.referencedRules, Element.referencedRulesOfAll,
      Element.referencedRulesOfAll_phrases, Element.literalTag]
  unfold rule
  by_cases several : 1 < s.maxRepeat
  · simpa only [several, if_true, Element.referencedRules] using choice
  · simpa only [several, if_false] using choice

theorem SlotReference.referencedRules_element (r : SlotReference) :
    r.element.referencedRules = [r.rule] := rfl

theorem Command.mem_referencedRules_alternative {c : Command} {id : String} :
    id ∈ c.alternative.referencedRules ↔
      (∃ r ∈ c.subject, r.rule = id) ∨ ∃ slot ∈ c.directObject, slot.name = id := by
  unfold alternative
  rw [Element.referencedRules, Element.mem_referencedRulesOfAll]
  cases c.subject <;> cases c.directObject <;>
    simp [SlotReference.referencedRules_element, Element.referencedRules,
      Element.referencedRulesOfAll_phrases, Element.literalTag, Slot.reference, eq_comm]

end Callout
