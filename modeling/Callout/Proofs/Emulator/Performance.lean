import Callout.Proofs.Emulator.Order
import Callout.Proofs.Emulator.Timing

namespace Callout

/-- The calls for some operations, all accepted, with their times: after each operation its delay
passes. -/
def keystrokes (atOnce : Bool) (time : Nat) : List KeyOperation → List TimedAttempt
  | [] => []
  | op :: ops =>
    (accepting (op.strokes atOnce)).map (TimedAttempt.mk · time) ++
      keystrokes atOnce (time + op.delayAfter) ops

theorem keystrokes_append (atOnce : Bool) (time : Nat) (xs ys : List KeyOperation) :
    keystrokes atOnce time (xs ++ ys) =
      keystrokes atOnce time xs ++ keystrokes atOnce (time + delays xs) ys := by
  induction xs generalizing time with
  | nil => rfl
  | cons op xs ih =>
    rw [List.cons_append, keystrokes, keystrokes, ih, List.append_assoc]
    simp [delays, Nat.add_assoc]

theorem KeyOperation.strokes_ne_nil (op : KeyOperation) (atOnce : Bool) :
    op.strokes atOnce ≠ [] := by
  unfold strokes
  cases op.action <;> cases atOnce <;> simp

namespace Emulator

variable {inj : Injector} {e e' : Emulator} {h : List Deed} {ticket : Nat} {act : Act}

def remaining (e : Emulator) : List (List KeyOperation) :=
  (match e.activity with
    | .idle => []
    | .performing _ rest | .pausing _ _ rest => [rest]
    | .applying _ op _ _ rest => [op :: rest])
  ++ e.queue.map (·.operations)

def flying (e : Emulator) : List Attempt :=
  match e.activity with
  | .applying _ _ made _ _ => made
  | .idle | .performing _ _ | .pausing _ _ _ => []

theorem Run.accepted_of_obedient (run : Run inj h e) (obedient : inj.Obedient) :
    ∀ attempt ∈ e.made, attempt.reply = .accepted := by
  induction run with
  | refl => exact List.forall_mem_nil _
  | @snoc h d e e' steps step ih =>
    intro attempt member
    rw [step.made] at member
    rcases List.mem_append.mp member with earlier | now
    · exact ih attempt earlier
    · cases step with
      | work work =>
        cases work with
        | call =>
          obtain rfl := List.mem_singleton.mp now
          rw [Run.injector steps]
          exact obedient _ _
        | take | start | apply | fail | sleep | finish => cases now
      | submit | refuse | wait | drop | shutdown => cases now

theorem Run.not_fail {op : KeyOperation} {attempts : List Attempt} {fault : InjectionFault}
    (run : Run inj h e) (obedient : inj.Obedient) :
    ¬ Work e ticket (.fail op attempts fault) e' := by
  intro work
  cases work with
  | fail _ applied faulty =>
    obtain ⟨_, latest⟩ := run.partway applied
    obtain ⟨attempt, member, faulty⟩ := List.exists_of_findSome?_eq_some faulty
    have accepted := run.accepted_of_obedient obedient attempt (latest.subset member)
    rw [Reply.fault?_eq_none_iff.mpr accepted] at faulty
    cases faulty

theorem Run.work_remaining (run : Run inj h e) (obedient : inj.Obedient)
    (work : Work e ticket act e') :
    act.applied?.toList ++ e'.remaining.flatten = e.remaining.flatten := by
  cases work with
  | take _ idle queued => simp [remaining, idle, queued, Act.applied?]
  | start _ busy => simp [remaining, busy, Act.applied?]
  | call applying => simp [remaining, applying, Emulator.call, Act.applied?]
  | @apply _ op _ _ _ applied _ =>
    by_cases undelayed : op.delayAfter = 0 <;>
      simp [remaining, applied, undelayed, Act.applied?]
  | fail running applied faulty =>
    exact absurd (.fail running applied faulty) (run.not_fail obedient)
  | sleep _ pausing => simp [remaining, pausing, Act.applied?]
  | finish _ done => simp [remaining, done, Act.applied?, Emulator.finish]

theorem Run.applied_append_remaining (run : Run inj h e) (obedient : inj.Obedient)
    (running : e.running = true) :
    applied h ++ e.remaining.flatten = (sequences h).flatten := by
  induction run with
  | refl => rfl
  | @snoc h d e e' steps step ih =>
    cases step with
    | submit sent =>
      rw [applied_snoc_of_none h rfl, sequences_append, List.flatten_append]
      rcases submit_eq_ok sent with ⟨rfl, _, rfl⟩ | ⟨filled, before, _, rfl⟩
      · rw [ih running]
        exact (List.append_nil _).symm
      · rw [← ih before]
        simp [sequences, Deed.sequence?, filled, remaining]
    | work work =>
      rw [work.frame.2.2] at running
      rw [applied_append, applied_work, sequences_snoc_of_none h rfl, ← ih running,
        List.append_assoc, Run.work_remaining steps obedient work]
    | refuse | wait | drop =>
      rw [applied_snoc_of_none h rfl, sequences_snoc_of_none h rfl, ih running]
    | shutdown => cases running

theorem Run.attempts_of_obedient (run : Run inj h e) (obedient : inj.Obedient) :
    e.attempts = keystrokes inj.clicksAtOnce 0 (applied h) ++
      e.flying.map (TimedAttempt.mk · e.clock) := by
  induction run with
  | refl => rfl
  | @snoc h d e e' steps step ih =>
    cases step with
    | submit sent =>
      rw [applied_snoc_of_none h rfl]
      rcases submit_eq_ok sent with ⟨_, _, rfl⟩ | ⟨_, _, _, rfl⟩ <;> exact ih
    | refuse | wait | drop | shutdown =>
      rw [applied_snoc_of_none h rfl]
      exact ih
    | @work _ ticket _ work =>
      cases work with
      | take _ activity _ | start _ activity | sleep _ activity | finish _ activity =>
        rw [applied_snoc_of_none h rfl]
        simpa [flying, activity, Emulator.finish] using ih
      | call applying =>
        rw [applied_snoc_of_none h rfl]
        simp [ih, flying, applying, Emulator.call]
      | @apply _ op made rest _ applied fine =>
        obtain ⟨partway, _⟩ := Run.partway steps applied
        obtain rfl := partway.of_fine fine
        have awake : e.owed = 0 := by simp [owed, applied]
        have time : e.clock = delays (Callout.applied h) := by
          have slept := Run.slept_add_owed steps
          rwa [awake, Nat.add_zero, ← Run.clock steps] at slept
        have before : e.flying = accepting (op.strokes inj.clicksAtOnce) := by
          simp [flying, applied]
        have after : ({ e with
            activity :=
              if op.delayAfter = 0 then Activity.performing ticket rest
              else .pausing ticket op.delayAfter rest } : Emulator).flying = [] := by
          by_cases undelayed : op.delayAfter = 0 <;> simp [flying, undelayed]
        rw [after, applied_append, applied_work, keystrokes_append]
        simp only
        rw [ih, before, time]
        simp [Act.applied?, keystrokes]
      | fail running applied faulty =>
        exact absurd (.fail running applied faulty) (Run.not_fail steps obedient)

theorem Run.outcome_of_obedient (run : Run inj h e) (obedient : inj.Obedient) :
    ∀ entry ∈ e.outcomes, entry.2 = .ok () := by
  induction run with
  | refl => exact List.forall_mem_nil _
  | @snoc h d e e' steps step ih =>
    cases step with
    | submit sent => rcases submit_eq_ok sent with ⟨_, _, rfl⟩ | ⟨_, _, _, rfl⟩ <;> exact ih
    | refuse | wait | drop | shutdown => exact ih
    | work work =>
      cases work with
      | take | start | call | apply | sleep => exact ih
      | fail running applied faulty =>
        exact absurd (.fail running applied faulty) (Run.not_fail steps obedient)
      | finish _ _ =>
        intro entry member
        rcases List.mem_append.mp member with earlier | now
        · exact ih entry earlier
        · obtain rfl := List.mem_singleton.mp now
          rfl

/-- Some sequences were performed in full, each operation at its time and nothing else, and every
sequence came to a good end. -/
structure Performed (e : Emulator) (inj : Injector) (sequences : List (List KeyOperation)) :
    Prop where
  attempts : e.attempts = keystrokes inj.clicksAtOnce 0 sequences.flatten
  clock : e.clock = delays sequences.flatten
  fine : ∀ ticket < e.nextTicket, e.outcome? (.ticket ticket) = some (.ok ())

theorem Performed.flatten_eq_nil {sequences : List (List KeyOperation)}
    (performed : e.Performed inj sequences) (unmade : e.made = []) : sequences.flatten = [] := by
  have attempts := performed.attempts
  rw [List.map_eq_nil_iff.mp unmade] at attempts
  cases operations : sequences.flatten with
  | nil => rfl
  | cons op ops =>
    rw [operations, keystrokes] at attempts
    have first := List.map_eq_nil_iff.mp (List.append_eq_nil_iff.mp attempts.symm).1
    exact absurd (List.map_eq_nil_iff.mp first) (op.strokes_ne_nil _)

theorem Run.performed (run : Run inj h e) (up : .shutdown ∉ h) (obedient : inj.Obedient)
    (idle : e.pending = []) : e.Performed inj ((submissions h).map (·.1)) := by
  obtain ⟨activity, empty⟩ := pending_eq_nil_iff.mp idle
  have through : applied h = ((submissions h).map (·.1)).flatten := by
    have all := run.applied_append_remaining obedient (run.running_iff.mpr up)
    have nothing : e.remaining = [] := by simp [remaining, activity, empty]
    rwa [nothing, List.flatten_nil, List.append_nil, flatten_sequences] at all
  refine ⟨?_, ?_, ?_⟩
  · have attempts := run.attempts_of_obedient obedient
    have grounded : e.flying = [] := by simp [flying, activity]
    rwa [grounded, List.map_nil, List.append_nil, through] at attempts
  · have slept := run.slept_add_owed
    have awake : e.owed = 0 := by simp [owed, activity]
    rwa [awake, Nat.add_zero, ← run.clock, through] at slept
  · intro ticket given
    have range := run.tickets_eq_range up
    rw [tickets, idle, List.append_nil] at range
    have reported : ticket ∈ e.outcomes.map (·.1) := by
      rw [range]
      exact List.mem_range.mpr given
    obtain ⟨⟨_, outcome⟩, member, rfl⟩ := List.mem_map.mp reported
    have nodup : (e.outcomes.map (·.1)).Nodup := run.orderly.nodup.of_append_left
    have ok := run.outcome_of_obedient obedient _ member
    simp only at ok
    rw [outcome?, lookup_of_nodup nodup member, ok]

/-- Sent to a worker that has nothing else to do, a sequence is performed. -/
theorem send_of_obedient (obedient : inj.Obedient) (ops : List KeyOperation) :
    ∃ e, ({ injector := inj } : Emulator).send ops = (e, .ok ()) ∧ e.injector = inj ∧
      e.Performed inj [ops] := by
  by_cases empty : ops = []
  · subst empty
    exact ⟨_, rfl, rfl, rfl, rfl, fun _ => nofun⟩
  · obtain ⟨queued, submitted⟩ :
        ∃ e, ({ injector := inj } : Emulator).submit ops = .ok (e, .ticket 0) :=
      ⟨_, by simp [submit, empty]; rfl⟩
    have asked : Run inj [.submit ops (.ticket 0)] queued := Steps.refl.snoc (.submit submitted)
    obtain ⟨h, works, steps, _⟩ := steps_stepsUntil
      (fun e => [Completion.ticket 0].all (e.outcome? · |>.isSome)) (Nat.le_refl queued.workLeft)
    have run : Run inj ([.submit ops (.ticket 0)] ++ h) (queued.await [.ticket 0]) :=
      asked.trans steps
    have up : .shutdown ∉ [.submit ops (.ticket 0)] ++ h :=
      works.shutdown_not_mem_append (by simp)
    have only : submissions ([.submit ops (.ticket 0)] ++ h) = [(ops, .ticket 0)] := by
      have quiet : submissions h = [] := works.filterMap_eq_nil fun _ _ => rfl
      rw [submissions_append, quiet, submissions_submit, List.append_nil]
    have latest : (queued.await [.ticket 0]).nextTicket = 0 + 1 :=
      run.nextTicket_of_latest (by rw [only]; rfl)
    obtain ⟨outcome, settled⟩ := asked.await (List.mem_singleton_self _)
    have idle := run.pending_of_latest up latest (by simp [settled])
    have performed := run.performed up obedient idle
    rw [only] at performed
    refine ⟨queued.await [.ticket 0], ?_, run.injector, performed⟩
    rw [send, submitted]
    simp only [wait, performed.fine 0 (by omega), Option.getD_some]

end Emulator

end Callout
