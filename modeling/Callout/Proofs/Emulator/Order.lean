import Callout.Proofs.Emulator.Completion

namespace Callout

def Deed.submission? : Deed → Option (List KeyOperation × Completion)
  | submit ops c => some (ops, c)
  | refuse _ _ | work _ _ | wait _ _ | drop _ | shutdown => none

def submissions (h : List Deed) : List (List KeyOperation × Completion) :=
  h.filterMap Deed.submission?

theorem submissions_append (h h' : List Deed) :
    submissions (h ++ h') = submissions h ++ submissions h' :=
  List.filterMap_append

theorem submissions_submit (ops : List KeyOperation) (c : Completion) :
    submissions [.submit ops c] = [(ops, c)] := rfl

theorem submissions_snoc_of_none {d : Deed} (h : List Deed) (quiet : d.submission? = none) :
    submissions (h ++ [d]) = submissions h := by
  simp [submissions, quiet]

theorem mem_submissions {h : List Deed} {ops : List KeyOperation} {c : Completion} :
    (ops, c) ∈ submissions h ↔ .submit ops c ∈ h := by
  unfold submissions
  rw [List.mem_filterMap]
  constructor
  · intro known
    obtain ⟨d, member, same⟩ := known
    cases d <;> cases same
    exact member
  · intro submitted
    exact ⟨_, submitted, rfl⟩

theorem ne_nil_of_mem_sequences {h : List Deed} {ops : List KeyOperation}
    (member : ops ∈ sequences h) : ops ≠ [] := by
  obtain ⟨d, _, same⟩ := List.mem_filterMap.mp member
  cases d with
  | submit others c =>
    simp only [Deed.sequence?, Option.ite_none_left_eq_some, Option.some.injEq] at same
    obtain ⟨filled, rfl⟩ := same
    exact filled
  | refuse | work | wait | drop | shutdown => cases same

theorem flatten_sequences (h : List Deed) :
    (sequences h).flatten = ((submissions h).map (·.1)).flatten := by
  induction h with
  | nil => rfl
  | cons d h ih =>
    cases d with
    | submit ops c =>
      by_cases empty : ops = []
      · simpa [sequences, submissions, Deed.sequence?, Deed.submission?, empty] using ih
      · simpa [sequences, submissions, Deed.sequence?, Deed.submission?, empty] using ih
    | refuse | work | wait | drop | shutdown => exact ih

namespace Emulator

variable {inj : Injector} {e e' : Emulator} {h : List Deed} {n : Nat}

theorem Run.tickets_eq_range (run : Run inj h e) (up : .shutdown ∉ h) :
    e.tickets = List.range e.nextTicket := by
  induction run with
  | refl => rfl
  | @snoc h d e e' steps step ih =>
    have before := ih fun shut => up (List.mem_append_left _ shut)
    cases step with
    | submit sent =>
      rcases submit_eq_ok sent with ⟨_, _, rfl⟩ | ⟨_, _, _, rfl⟩
      · exact before
      · simp only [tickets, pending, current?] at before ⊢
        rw [List.range_succ, ← before]
        simp
    | work work => rw [work.tickets, work.frame.2.1, before]
    | refuse | wait | drop => exact before
    | shutdown => exact absurd (List.mem_append_right _ (List.mem_singleton_self _)) up

theorem Run.nextTicket_eq (run : Run inj h e) : e.nextTicket = (sequences h).length := by
  induction run with
  | refl => rfl
  | @snoc h d e e' steps step ih =>
    rw [sequences_append, List.length_append, ← ih]
    cases step with
    | submit sent =>
      rcases submit_eq_ok sent with ⟨rfl, _, rfl⟩ | ⟨filled, _, _, rfl⟩
      · rfl
      · simp [sequences, Deed.sequence?, filled]
    | work work => exact work.frame.2.1
    | refuse | wait | drop | shutdown => rfl

theorem Run.nextTicket_of_latest {ops : List KeyOperation} (run : Run inj h e)
    (latest : (submissions h).getLast? = some (ops, .ticket n)) : e.nextTicket = n + 1 := by
  induction run with
  | refl => cases latest
  | @snoc h d e e' steps step ih =>
    cases step with
    | submit sent =>
      rw [submissions_append, submissions_submit, List.getLast?_concat] at latest
      cases latest
      rcases submit_eq_ok sent with ⟨_, ready, _⟩ | ⟨_, _, given, rfl⟩
      · cases ready
      · cases given
        rfl
    | work work =>
      rw [submissions_snoc_of_none h rfl] at latest
      rw [work.frame.2.1, ih latest]
    | refuse | wait | drop | shutdown =>
      rw [submissions_snoc_of_none h rfl] at latest
      exact ih latest

theorem pending_eq_nil_iff : e.pending = [] ↔ e.activity = .idle ∧ e.queue = [] := by
  unfold pending current?
  cases e.activity <;> simp

theorem mem_outcomes_of_outcome? (running : e.running = true)
    (settled : (e.outcome? (.ticket n)).isSome) : n ∈ e.outcomes.map (·.1) := by
  by_contra missing
  simp [outcome?, lookup_of_not_mem missing, running] at settled

theorem Run.pending_of_latest (run : Run inj h e) (up : .shutdown ∉ h)
    (latest : e.nextTicket = n + 1) (settled : (e.outcome? (.ticket n)).isSome) :
    e.pending = [] := by
  have range := run.tickets_eq_range up
  rw [latest, List.range_succ, tickets] at range
  have reported := mem_outcomes_of_outcome? (run.running_iff.mpr up) settled
  rcases List.eq_nil_or_concat' e.pending with empty | ⟨others, last, parts⟩
  · exact empty
  -- Otherwise the last of what is pending is the latest ticket.
  · rw [parts, ← List.append_assoc] at range
    obtain ⟨_, same⟩ := List.append_inj' range rfl
    obtain rfl := List.head_eq_of_cons_eq same
    have waiting : last ∈ e.pending := by simp [parts]
    exact absurd reported (run.orderly.not_over waiting)

theorem Run.pending_of_flatten (run : Run inj h e) (up : .shutdown ∉ h)
    (empty : (sequences h).flatten = []) : e.pending = [] := by
  have none : sequences h = [] := by
    rw [List.flatten_eq_nil_iff] at empty
    by_contra some
    obtain ⟨ops, member⟩ := List.exists_mem_of_ne_nil _ some
    exact ne_nil_of_mem_sequences member (empty ops member)
  have range := run.tickets_eq_range up
  rw [run.nextTicket_eq, none, tickets] at range
  exact (List.append_eq_nil_iff.mp range).2

end Emulator

end Callout
