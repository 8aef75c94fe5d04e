import Callout.Grammar.Interpret
import Callout.Proofs.Grammar.Derivation

namespace Callout

namespace Path

theorem rounds_nil (step : Step) (k : Nat) : rounds step k [] = [] := by
  cases k <;> rfl

theorem rounds_succ (step : Step) (k : Nat) (paths : List Path) :
    rounds step (k + 1) paths = rounds step k (paths.flatMap step) := by
  cases paths with
  | nil => rw [List.flatMap_nil, rounds_nil, rounds_nil]
  | cons p paths => rfl

theorem rounds_flatMap (step : Step) (k : Nat) (paths : List Path) :
    rounds step k paths = paths.flatMap fun p => rounds step k [p] := by
  induction k generalizing paths with
  | zero => simp [rounds]
  | succ k ih =>
    have each : (fun p => rounds step (k + 1) [p]) = fun p => rounds step k (step p) := by
      funext p
      rw [rounds_succ, List.flatMap_singleton]
    rw [each, rounds_succ, ih, List.flatMap_assoc]
    congr 1
    funext p
    exact (ih (step p)).symm

theorem mem_rounds {step : Step} {k : Nat} {paths : List Path} {q : Path} :
    q ∈ rounds step k paths ↔ ∃ p ∈ paths, q ∈ rounds step k [p] := by
  rw [rounds_flatMap, List.mem_flatMap]

theorem mem_rounds_succ {step : Step} {k : Nat} {p q : Path} :
    q ∈ rounds step (k + 1) [p] ↔ ∃ m ∈ step p, q ∈ rounds step k [m] := by
  rw [rounds_succ, List.flatMap_singleton, mem_rounds]

theorem mem_furtherRounds {step : Step} {k : Nat} {paths : List Path} {q : Path} :
    q ∈ furtherRounds step k paths ↔ ∃ j ≤ k, q ∈ rounds (consuming step) j paths := by
  induction k generalizing paths with
  | zero => simp [furtherRounds, rounds]
  | succ k ih =>
    have unfolded : q ∈ furtherRounds step (k + 1) paths ↔
        q ∈ paths ∨ q ∈ furtherRounds step k (paths.flatMap (consuming step)) := by
      cases paths with
      | nil => cases k <;> simp [furtherRounds]
      | cons p paths => exact List.mem_append
    rw [unfolded, ih]
    constructor
    · intro known
      rcases known with here | ⟨j, bound, later⟩
      · exact ⟨0, Nat.zero_le _, here⟩
      · exact ⟨j + 1, by omega, by rwa [rounds_succ]⟩
    · intro known
      obtain ⟨_ | j, bound, h⟩ := known
      · exact .inl h
      · rw [rounds_succ] at h
        exact .inr ⟨j, by omega, h⟩

theorem mem_repeated {step : Step} {min : Nat} {max : Option Nat} {p q : Path} :
    q ∈ repeated step min max p ↔ ∃ j, (∀ m ∈ max, min + j ≤ m) ∧ (max = none → j ≤ p.rest.length) ∧
      ∃ m ∈ rounds step min [p], q ∈ rounds (consuming step) j [m] := by
  cases max with
  | none =>
    simp only [repeated, mem_furtherRounds, Option.not_mem_none, false_implies, implies_true,
      true_and, true_implies]
    exact exists_congr fun j => and_congr_right fun _ => mem_rounds
  | some most =>
    simp only [repeated, Option.mem_some_iff, forall_eq', reduceCtorEq, false_implies, true_and]
    split
    · rename_i less
      constructor
      · intro h
        cases h
      · intro known
        obtain ⟨j, bound, _⟩ := known
        omega
    · rename_i enough
      rw [mem_furtherRounds]
      refine exists_congr fun j => and_congr ?_ mem_rounds
      omega

theorem read_trans {p m q : Path} {ws vs : List String} {a b : List (String × String)}
    (left : p.rest = ws ++ m.rest) (assigned : m.assigned = p.assigned ++ a)
    (left' : m.rest = vs ++ q.rest) (assigned' : q.assigned = m.assigned ++ b) :
    p.rest = (ws ++ vs) ++ q.rest ∧ q.assigned = p.assigned ++ (a ++ b) := by
  constructor
  · rw [left, left', List.append_assoc]
  · rw [assigned', assigned, List.append_assoc]

end Path

namespace Step

/-- Every continuation uses up words, and adds entries, that belong to the language. -/
def Sound (step : Step) (l : Language) : Prop :=
  ∀ p, ∀ q ∈ step p, ∃ ws a, p.rest = ws ++ q.rest ∧ q.assigned = p.assigned ++ a ∧ l ws a

/-- All words of the language can be used up. The entries may differ, as one step may read the same
words in several ways. -/
def Complete (step : Step) (l : Language) : Prop :=
  ∀ ws a, l ws a → ∀ p rest, p.rest = ws ++ rest → ∃ q ∈ step p, q.rest = rest

end Step

namespace Grammar

open Callout.Path

variable {g : Grammar} {n : Nat} {e : Element} {step : Step}

theorem takeWords_sound (text : String) :
    Step.Sound (takeWords (Text.words text)) (g.Derives n (.phrase text)) := by
  intro p q member
  unfold takeWords at member
  split at member
  · rename_i rest found
    obtain rfl := List.mem_singleton.mp member
    exact ⟨_, [], after?_eq_some_iff.mp found, by simp, .phrase text⟩
  · cases member

theorem takeWords_complete (text : String) :
    Step.Complete (takeWords (Text.words text)) (g.Derives n (.phrase text)) := by
  intro ws a derived p rest starts
  obtain ⟨rfl, rfl⟩ := derives_phrase.mp derived
  have found := after?_eq_some_iff.mpr starts
  exact ⟨{ p with rest }, by simp [takeWords, found], rfl⟩

theorem assign_sound (t : Tag) : Step.Sound (assign t) (g.Derives n (.tag t)) := by
  intro p q member
  obtain ⟨field, value | rule⟩ := t
  · obtain rfl := List.mem_singleton.mp member
    exact ⟨[], _, rfl, rfl, .literal field value⟩
  · obtain rfl := List.mem_singleton.mp member
    exact ⟨[], [], rfl, by simp, .ruleOutput field rule⟩

theorem assign_complete (t : Tag) : Step.Complete (assign t) (g.Derives n (.tag t)) := by
  intro ws a derived p rest starts
  obtain ⟨field, value | rule⟩ := t
  · obtain ⟨rfl, rfl⟩ := derives_literalTag.mp derived
    exact ⟨_, List.mem_singleton.mpr rfl, starts⟩
  · obtain ⟨rfl, rfl⟩ := derives_ruleTag.mp derived
    exact ⟨p, List.mem_singleton.mpr rfl, starts⟩

theorem consuming_sound (sound : step.Sound (g.Derives n e)) :
    Step.Sound (consuming step) (g.Derives n e) :=
  fun p q member => sound p q (List.mem_filter.mp member).1

theorem rounds_sound (sound : step.Sound (g.Derives n e)) (k : Nat) :
    Step.Sound (fun p => rounds step k [p]) (g.Derives n (.sequence (List.replicate k e))) := by
  induction k with
  | zero =>
    intro p q member
    obtain rfl := List.mem_singleton.mp member
    exact ⟨[], [], rfl, by simp, .nil⟩
  | succ k ih =>
    intro p q member
    obtain ⟨m, first, later⟩ := mem_rounds_succ.mp member
    obtain ⟨ws, a, left, assigned, head⟩ := sound p m first
    obtain ⟨vs, b, left', assigned', tail⟩ := ih m q later
    obtain ⟨both, all⟩ := read_trans left assigned left' assigned'
    exact ⟨ws ++ vs, a ++ b, both, all, .cons head tail⟩

theorem rounds_complete (complete : step.Complete (g.Derives n e)) (k : Nat) :
    Step.Complete (fun p => rounds step k [p]) (g.Derives n (.sequence (List.replicate k e))) := by
  induction k with
  | zero =>
    intro ws a derived p rest starts
    obtain ⟨rfl, rfl⟩ := derives_nil.mp derived
    exact ⟨p, List.mem_singleton.mpr rfl, starts⟩
  | succ k ih =>
    intro ws a derived p rest starts
    obtain ⟨vs, us, b, c, rfl, rfl, head, tail⟩ := derives_cons.mp derived
    rw [List.append_assoc] at starts
    obtain ⟨m, first, left⟩ := complete vs b head p _ starts
    obtain ⟨q, later, left'⟩ := ih us c tail m rest left
    exact ⟨q, mem_rounds_succ.mpr ⟨m, first, later⟩, left'⟩

theorem consuming_rounds_complete (complete : step.Complete (g.Derives n e)) {k : Nat}
    {ws : List String} {a : List (String × String)}
    (derived : g.Derives n (.sequence (List.replicate k e)) ws a) (p : Path) (rest : List String)
    (starts : p.rest = ws ++ rest) :
    ∃ j ≤ k, j ≤ ws.length ∧ ∃ q ∈ rounds (consuming step) j [p], q.rest = rest := by
  induction k generalizing ws a p with
  | zero =>
    obtain ⟨rfl, rfl⟩ := derives_nil.mp derived
    exact ⟨0, Nat.le_refl _, Nat.le_refl _, p, List.mem_singleton.mpr rfl, starts⟩
  | succ k ih =>
    obtain ⟨vs, us, b, c, rfl, rfl, head, tail⟩ := derives_cons.mp derived
    cases vs with
    | nil =>
      -- The first round reads nothing, so the others do without it.
      obtain ⟨j, bound, short, found⟩ := ih tail p starts
      exact ⟨j, by omega, short, found⟩
    | cons w vs =>
      rw [List.append_assoc] at starts
      obtain ⟨m, first, left⟩ := complete _ b head p _ starts
      have consumed : m ∈ consuming step p := by
        have shorter : m.rest.length < p.rest.length := by
          simp only [starts, left, List.length_append, List.length_cons]
          omega
        exact List.mem_filter.mpr ⟨first, by simpa using shorter⟩
      obtain ⟨j, bound, short, q, later, left'⟩ := ih tail m left
      refine ⟨j + 1, by omega, ?_, q, mem_rounds_succ.mpr ⟨m, consumed, later⟩, left'⟩
      rw [List.length_append, List.length_cons]
      omega

theorem repeated_sound (sound : step.Sound (g.Derives n e)) (min : Nat) (max : Option Nat) :
    Step.Sound (repeated step min max) (g.Derives n (.repetition e min max)) := by
  intro p q member
  obtain ⟨j, most, _, m, first, later⟩ := mem_repeated.mp member
  obtain ⟨ws, a, left, assigned, head⟩ := rounds_sound sound min p m first
  obtain ⟨vs, b, left', assigned', tail⟩ := rounds_sound (consuming_sound sound) j m q later
  obtain ⟨both, all⟩ := read_trans left assigned left' assigned'
  refine ⟨ws ++ vs, a ++ b, both, all, .repetition (min + j) (Nat.le_add_right _ _) most ?_⟩
  rw [← List.replicate_append_replicate]
  exact derives_append.mpr ⟨_, _, _, _, rfl, rfl, head, tail⟩

theorem repeated_complete (complete : step.Complete (g.Derives n e)) (min : Nat)
    (max : Option Nat) :
    Step.Complete (repeated step min max) (g.Derives n (.repetition e min max)) := by
  intro ws a derived p rest starts
  obtain ⟨count, least, most, derived⟩ := derives_repetition.mp derived
  obtain ⟨extra, rfl⟩ := Nat.exists_eq_add_of_le least
  rw [← List.replicate_append_replicate] at derived
  obtain ⟨vs, us, b, c, rfl, rfl, head, tail⟩ := derives_append.mp derived
  rw [List.append_assoc] at starts
  obtain ⟨m, first, left⟩ := rounds_complete complete min vs b head p _ starts
  obtain ⟨j, bound, short, q, later, left'⟩ := consuming_rounds_complete complete tail m rest left
  refine ⟨q, mem_repeated.mpr ⟨j, ?_, ?_, m, first, later⟩, left'⟩
  · intro most' h
    have := most most' h
    omega
  · intro _
    rw [starts, List.length_append, List.length_append]
    omega

theorem mem_pathsOfAny {refs : String → Step} {es : List Element} {p q : Path} :
    q ∈ Element.pathsOfAny refs es p ↔ ∃ e ∈ es, q ∈ e.paths refs p := by
  induction es with
  | nil => simp [Element.pathsOfAny]
  | cons e es ih => simp [Element.pathsOfAny, ih]

theorem mem_pathsOfAll_cons {refs : String → Step} {e : Element} {es : List Element}
    {p q : Path} :
    q ∈ Element.pathsOfAll refs (e :: es) p ↔
      ∃ m ∈ e.paths refs p, q ∈ Element.pathsOfAll refs es m := by
  rw [Element.pathsOfAll, List.mem_flatMap]

theorem pathsOfAll_sound {refs : String → Step} {es : List Element}
    (sound : ∀ e ∈ es, Step.Sound (e.paths refs) (g.Derives n e)) :
    Step.Sound (Element.pathsOfAll refs es) (g.Derives n (.sequence es)) := by
  induction es with
  | nil =>
    intro p q member
    rw [Element.pathsOfAll] at member
    obtain rfl := List.mem_singleton.mp member
    exact ⟨[], [], rfl, by simp, .nil⟩
  | cons e es ih =>
    intro p q member
    obtain ⟨m, first, later⟩ := mem_pathsOfAll_cons.mp member
    obtain ⟨ws, a, left, assigned, head⟩ := sound e (by simp) p m first
    obtain ⟨vs, b, left', assigned', tail⟩ :=
      ih (fun e member => sound e (List.mem_cons_of_mem _ member)) m q later
    obtain ⟨both, all⟩ := read_trans left assigned left' assigned'
    exact ⟨ws ++ vs, a ++ b, both, all, .cons head tail⟩

theorem pathsOfAll_complete {refs : String → Step} {es : List Element}
    (complete : ∀ e ∈ es, Step.Complete (e.paths refs) (g.Derives n e)) :
    Step.Complete (Element.pathsOfAll refs es) (g.Derives n (.sequence es)) := by
  induction es with
  | nil =>
    intro ws a derived p rest starts
    obtain ⟨rfl, rfl⟩ := derives_nil.mp derived
    exact ⟨p, by simp [Element.pathsOfAll], starts⟩
  | cons e es ih =>
    intro ws a derived p rest starts
    obtain ⟨vs, us, b, c, rfl, rfl, head, tail⟩ := derives_cons.mp derived
    rw [List.append_assoc] at starts
    obtain ⟨m, first, left⟩ := complete e (by simp) vs b head p _ starts
    obtain ⟨q, later, left'⟩ :=
      ih (fun e member => complete e (List.mem_cons_of_mem _ member)) us c tail m rest left
    exact ⟨q, mem_pathsOfAll_cons.mpr ⟨m, first, later⟩, left'⟩

theorem paths_sound_of_refs {refs : String → Step}
    (sound : ∀ id, Step.Sound (refs id) (g.Derives n (.ruleRef id))) (e : Element) :
    Step.Sound (e.paths refs) (g.Derives n e) := by
  induction e using Element.structural with
  | phrase text => exact takeWords_sound text
  | oneOf alternatives ih =>
    intro p q member
    rw [Element.paths] at member
    obtain ⟨e, alternative, member⟩ := mem_pathsOfAny.mp member
    obtain ⟨ws, a, left, assigned, derived⟩ := ih e alternative p q member
    exact ⟨ws, a, left, assigned, .oneOf alternative derived⟩
  | sequence parts ih => exact pathsOfAll_sound ih
  | ruleRef rule => exact sound rule
  | repetition inner min max ih => exact repeated_sound ih min max
  | tag t => exact assign_sound t

theorem paths_complete_of_refs {refs : String → Step}
    (complete : ∀ id, Step.Complete (refs id) (g.Derives n (.ruleRef id))) (e : Element) :
    Step.Complete (e.paths refs) (g.Derives n e) := by
  induction e using Element.structural with
  | phrase text => exact takeWords_complete text
  | oneOf alternatives ih =>
    intro ws a derived p rest starts
    obtain ⟨e, alternative, derived⟩ := derives_oneOf.mp derived
    obtain ⟨q, member, left⟩ := ih e alternative ws a derived p rest starts
    rw [Element.paths]
    exact ⟨q, mem_pathsOfAny.mpr ⟨e, alternative, member⟩, left⟩
  | sequence parts ih => exact pathsOfAll_complete ih
  | ruleRef rule => exact complete rule
  | repetition inner min max ih => exact repeated_complete ih min max
  | tag t => exact assign_complete t

theorem refPaths_sound (g : Grammar) (n : Nat) (id : String) :
    Step.Sound (g.refPaths n id) (g.Derives n (.ruleRef id)) := by
  induction n generalizing id with
  | zero =>
    intro p q member
    cases member
  | succ n ih =>
    intro p q member
    cases found : g.rule? id with
    | none =>
      simp only [refPaths, found] at member
      cases member
    | some rule =>
      simp only [refPaths, found] at member
      obtain ⟨ws, a, left, assigned, body⟩ := paths_sound_of_refs ih rule.body p q member
      exact ⟨ws, a, left, assigned, .ruleRef found body⟩

theorem refPaths_complete (g : Grammar) (n : Nat) (id : String) :
    Step.Complete (g.refPaths n id) (g.Derives n (.ruleRef id)) := by
  induction n generalizing id with
  | zero =>
    intro ws a derived
    obtain ⟨m, rule, impossible, _⟩ := derives_ruleRef.mp derived
    cases impossible
  | succ n ih =>
    intro ws a derived p rest starts
    obtain ⟨m, rule, same, found, body⟩ := derives_ruleRef.mp derived
    obtain rfl := Nat.succ.inj same
    obtain ⟨q, member, left⟩ := paths_complete_of_refs ih rule.body ws a body p rest starts
    exact ⟨q, by rwa [refPaths, found], left⟩

theorem paths_sound (g : Grammar) (n : Nat) (e : Element) :
    Step.Sound (e.paths (g.refPaths n)) (g.Derives n e) :=
  paths_sound_of_refs (g.refPaths_sound n) e

theorem paths_complete (g : Grammar) (n : Nat) (e : Element) :
    Step.Complete (e.paths (g.refPaths n)) (g.Derives n e) :=
  paths_complete_of_refs (g.refPaths_complete n) e

theorem derives_of_find?_paths {e : Element} {ws : List String} {q : Path}
    (first : (e.paths (g.refPaths n) ⟨ws, []⟩).find? (·.rest.isEmpty) = some q) :
    g.Derives n e ws q.assigned := by
  obtain ⟨vs, a, left, assigned, derived⟩ :=
    paths_sound g n e _ q (List.mem_of_find?_eq_some first)
  have used : q.rest = [] := by
    simpa using List.find?_some first
  simp only [used, List.append_nil] at left
  simp only [List.nil_append] at assigned
  rw [left, assigned]
  exact derived

theorem find?_paths_isSome {e : Element} {ws : List String} {a : List (String × String)}
    (derived : g.Derives n e ws a) :
    ((e.paths (g.refPaths n) ⟨ws, []⟩).find? (·.rest.isEmpty)).isSome := by
  obtain ⟨q, member, used⟩ := paths_complete g n e ws a derived ⟨ws, []⟩ [] (by simp)
  rw [List.find?_isSome]
  exact ⟨q, member, by simp [used]⟩

def Spells (g : Grammar) (ws : List String) (a : List (String × String)) : Prop :=
  ∃ root, g.rootRule? = some root ∧ g.Derives maxNesting root.body ws a

theorem spells_of_assignments? {ws : List String} {a : List (String × String)}
    (h : g.assignments? ws = some a) : ws ≠ [] ∧ g.Spells ws a := by
  unfold assignments? at h
  split at h
  · cases h
  · cases h
  · rename_i root w ws found
    obtain ⟨q, first, rfl⟩ := Option.map_eq_some_iff.mp h
    exact ⟨List.cons_ne_nil _ _, root, found, derives_of_find?_paths first⟩

theorem assignments?_isSome {ws : List String} {a : List (String × String)} (spoken : ws ≠ [])
    (h : g.Spells ws a) : (g.assignments? ws).isSome := by
  obtain ⟨root, found, derived⟩ := h
  obtain ⟨w, ws, rfl⟩ := List.exists_cons_of_ne_nil spoken
  simp only [assignments?, found, Option.isSome_map]
  exact find?_paths_isSome derived

theorem assignments?_isSome_iff {ws : List String} :
    (g.assignments? ws).isSome ↔ ws ≠ [] ∧ ∃ a, g.Spells ws a := by
  constructor
  · intro h
    obtain ⟨a, found⟩ := Option.isSome_iff_exists.mp h
    obtain ⟨spoken, spelled⟩ := spells_of_assignments? found
    exact ⟨spoken, a, spelled⟩
  · intro known
    obtain ⟨spoken, a, spelled⟩ := known
    exact assignments?_isSome spoken spelled

end Grammar

end Callout
