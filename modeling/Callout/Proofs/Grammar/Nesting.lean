import Callout.Proofs.Grammar.Reference

namespace Callout

namespace Grammar

variable {g : Grammar} {refs refs' : String → Step} {id : String} {n : Nat}

def opened (g : Grammar) (refs : String → Step) (id : String) : Step :=
  match g.rule? id with
  | some rule => rule.body.paths refs
  | none => fun _ => []

theorem refPaths_succ (n : Nat) (id : String) :
    g.refPaths (n + 1) id = g.opened (g.refPaths n) id := rfl

/-- References are followed without a limit: every rule matches whatever its body matches. -/
def Unlimited (g : Grammar) (refs : String → Step) : Prop :=
  ∀ id, refs id = g.opened refs id

/-- Every reference leads from one level to a lower one, so no rule comes back to itself. -/
def Falls (g : Grammar) (level : String → Nat) : Prop :=
  ∀ id rule, g.rule? id = some rule → ∀ other ∈ rule.body.referencedRules, level other < level id

variable {level : String → Nat}

theorem Falls.opened_congr (falls : g.Falls level)
    (agree : ∀ other, level other < level id → refs other = refs' other) :
    g.opened refs id = g.opened refs' id := by
  unfold opened
  cases found : g.rule? id with
  | none => rfl
  | some rule =>
    apply Element.paths_congr
    intro other referenced
    exact agree other (falls id rule found other referenced)

theorem Falls.refPaths_eq (falls : g.Falls level) {m : Nat} (below : level id < n)
    (below' : level id < m) : g.refPaths n id = g.refPaths m id := by
  induction n generalizing m id with
  | zero => omega
  | succ n ih =>
    obtain ⟨m, rfl⟩ := Nat.exists_eq_succ_of_ne_zero (Nat.ne_zero_of_lt below')
    rw [refPaths_succ, Nat.succ_eq_add_one, refPaths_succ]
    apply falls.opened_congr
    intro other lower
    exact ih (by omega) (by omega)

theorem Falls.unlimited (falls : g.Falls level) (below : ∀ id, level id < n) :
    g.Unlimited (g.refPaths n) := by
  intro id
  rw [falls.refPaths_eq (below id) (Nat.lt_succ_of_lt (below id)), refPaths_succ]

theorem Falls.eq_refPaths (falls : g.Falls level) (unlimited : g.Unlimited refs)
    (below : level id < n) : refs id = g.refPaths n id := by
  induction n generalizing id with
  | zero => omega
  | succ n ih =>
    rw [unlimited id, refPaths_succ]
    apply falls.opened_congr
    intro other lower
    exact ih (by omega)

/-- If no more than `maxNesting` references are nested inside the root rule, an utterance means
what it means without a limit. -/
theorem Falls.meaning?_eq (falls : g.Falls level) (bound : level g.root ≤ maxNesting)
    (unlimited : g.Unlimited refs) (utterance : String) :
    g.meaning? refs utterance = g.interpret utterance := by
  have root := falls.eq_refPaths unlimited (Nat.lt_succ_of_le bound)
  rw [interpret_eq_meaning?, meaning?, meaning?, root]

end Grammar

end Callout
