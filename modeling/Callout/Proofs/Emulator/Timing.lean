import Callout.Proofs.Emulator.Completion
import Mathlib.Algebra.GroupWithZero.Nat

namespace Callout

namespace Act

def applied? : Act → Option KeyOperation
  | apply op _ => some op
  | take | start _ | call _ | fail _ _ _ | sleep _ | finish => none

def slept : Act → Nat
  | sleep delay => delay
  | take | start _ | call _ | apply _ _ | fail _ _ _ | finish => 0

theorem slept_calls (op : KeyOperation) (attempts : List Attempt) :
    ((start op :: attempts.map call).map slept).sum = 0 := by
  simp [slept, Function.comp_def]

end Act

namespace Deed

def applied? : Deed → Option KeyOperation
  | work _ act => act.applied?
  | submit _ _ | refuse _ _ | wait _ _ | drop _ | shutdown => none

def slept : Deed → Nat
  | work _ act => act.slept
  | submit _ _ | refuse _ _ | wait _ _ | drop _ | shutdown => 0

end Deed

def applied (h : List Deed) : List KeyOperation :=
  h.filterMap Deed.applied?

/-- How long the worker has slept in a run. -/
def slept (h : List Deed) : Nat :=
  (h.map Deed.slept).sum

def delays (ops : List KeyOperation) : Nat :=
  (ops.map (·.delayAfter)).sum

theorem delays_append (xs ys : List KeyOperation) : delays (xs ++ ys) = delays xs + delays ys := by
  simp [delays]

theorem applied_append (h h' : List Deed) : applied (h ++ h') = applied h ++ applied h' :=
  List.filterMap_append

theorem applied_snoc_of_none {d : Deed} (h : List Deed) (quiet : d.applied? = none) :
    applied (h ++ [d]) = applied h := by
  simp [applied, quiet]

theorem applied_work (ticket : Nat) (act : Act) :
    applied [.work ticket act] = act.applied?.toList := by
  cases same : act.applied? <;> simp [applied, Deed.applied?, same]

theorem slept_append (h h' : List Deed) : slept (h ++ h') = slept h + slept h' := by
  simp [slept]

theorem slept_singleton (d : Deed) : slept [d] = d.slept :=
  List.sum_singleton

theorem Injector.slept_work (inj : Injector) (ops : List KeyOperation) :
    ((inj.work ops).map Act.slept).sum = delays ops := by
  have each (op : KeyOperation) : ((inj.acts op).map Act.slept).sum = op.delayAfter := by
    rw [acts, List.map_append, List.sum_append, Act.slept_calls]
    by_cases undelayed : op.delayAfter = 0 <;> simp [undelayed, Act.slept]
  have all : ((ops.flatMap inj.acts).map Act.slept).sum = delays ops := by
    induction ops with
    | nil => rfl
    | cons op ops ih =>
      rw [List.flatMap_cons, List.map_append, List.sum_append, each, ih]
      rfl
  rw [work, List.map_cons, List.sum_cons, all, Act.slept, Nat.zero_add]

theorem exists_of_acts_eq_concat {ticket : Nat} {h : List Deed} {did : List Act} {last : Act}
    (same : acts ticket h = did ++ [last]) :
    ∃ before after, h = before ++ .work ticket last :: after ∧ acts ticket before = did := by
  obtain ⟨first, second, parts, earlier, later⟩ := List.filterMap_eq_append_iff.mp same
  obtain ⟨others, d, after, rfl, quiet, here, _⟩ := List.filterMap_eq_cons_iff.mp later
  cases d with
  | work other act =>
    simp only [Deed.act?, Option.ite_none_right_eq_some, Option.some.injEq] at here
    obtain ⟨rfl, rfl⟩ := here
    refine ⟨first ++ others, after, by rw [parts, List.append_assoc], ?_⟩
    rw [acts, List.filterMap_append, earlier, List.filterMap_eq_nil_iff.mpr quiet,
      List.append_nil]
  | submit | refuse | wait | drop | shutdown => cases here

namespace Emulator

variable {inj : Injector} {e e' e'' : Emulator} {h before after : List Deed} {ticket : Nat}
  {act : Act} {d : Deed}

def owed (e : Emulator) : Nat :=
  match e.activity with
  | .pausing _ delay _ => delay
  | .idle | .performing _ _ | .applying _ _ _ _ _ => 0

theorem Work.clock (work : Work e ticket act e') : e'.clock = e.clock + act.slept := by
  cases work <;> rfl

theorem Work.owed (work : Work e ticket act e') :
    act.slept + e'.owed = e.owed + delays act.applied?.toList := by
  cases work with
  | take _ activity _ | start _ activity | fail _ activity _ | sleep _ activity
  | finish _ activity =>
    simp [Emulator.owed, activity, Emulator.finish, Act.slept, Act.applied?, delays]
  | call applying =>
    simp [Emulator.owed, applying, Emulator.call, Act.slept, Act.applied?, delays]
  | @apply _ op _ _ _ applied _ =>
    by_cases undelayed : op.delayAfter = 0 <;>
      simp [Emulator.owed, applied, undelayed, Act.slept, Act.applied?, delays]

theorem Work.owed_eq_zero (work : Work e ticket act e') (awake : ∀ delay, act ≠ .sleep delay) :
    e.owed = 0 := by
  cases work with
  | @sleep _ delay => exact absurd rfl (awake delay)
  | take _ activity _ | start _ activity | call activity | apply _ activity _
  | fail _ activity _ | finish _ activity => simp [Emulator.owed, activity]

theorem Work.attempts_eq (work : Work e ticket act e') :
    e'.attempts = e.attempts ++ act.attempts.map (TimedAttempt.mk · e.clock) := by
  cases work with
  | call => rfl
  | take | start | apply | fail | sleep | finish => exact (List.append_nil _).symm

theorem Step.clock (step : Step e d e') : e'.clock = e.clock + d.slept := by
  cases step with
  | submit sent => rcases submit_eq_ok sent with ⟨_, _, rfl⟩ | ⟨_, _, _, rfl⟩ <;> rfl
  | work work => exact work.clock
  | refuse | wait | drop | shutdown => rfl

theorem Step.attempts_eq (step : Step e d e') :
    e'.attempts = e.attempts ++ d.attempts.map (TimedAttempt.mk · e.clock) := by
  cases step with
  | submit sent =>
    rcases submit_eq_ok sent with ⟨_, _, rfl⟩ | ⟨_, _, _, rfl⟩ <;>
      exact (List.append_nil _).symm
  | work work => exact work.attempts_eq
  | refuse | wait | drop | shutdown => exact (List.append_nil _).symm

theorem Steps.attempts_prefix (steps : Steps e h e') : e.attempts <+: e'.attempts := by
  induction steps with
  | refl => exact List.prefix_rfl
  | snoc _ step ih =>
    rw [step.attempts_eq]
    exact ih.trans (List.prefix_append _ _)

theorem Run.clock (run : Run inj h e) : e.clock = slept h := by
  induction run with
  | refl => rfl
  | snoc _ step ih => rw [step.clock, ih, slept_append, slept_singleton]

/-- What the worker has slept, with what it owes, is what the operations that went well ask for. -/
theorem Run.slept_add_owed (run : Run inj h e) : slept h + e.owed = delays (applied h) := by
  induction run with
  | refl => rfl
  | @snoc h d e e' steps step ih =>
    rw [slept_append, applied_append, delays_append, slept_singleton]
    cases step with
    | submit sent => rcases submit_eq_ok sent with ⟨_, _, rfl⟩ | ⟨_, _, _, rfl⟩ <;> exact ih
    | @work _ ticket act work =>
      have owed := work.owed
      rw [applied_work]
      simp only [Deed.slept]
      omega
    | refuse | wait | drop | shutdown => exact ih

theorem Run.slept_of_awake (run : Run inj (before ++ .work ticket act :: after) e)
    (awake : ∀ delay, act ≠ .sleep delay) : slept before = delays (applied before) := by
  obtain ⟨e₁, e₂, earlier, step, _⟩ := run.exists_step
  cases step with
  | work work =>
    have punctual := earlier.slept_add_owed
    rwa [work.owed_eq_zero awake, Nat.add_zero] at punctual

theorem Run.slept_of_call (run : Run inj (before ++ d :: after) e) (calls : d.attempts ≠ []) :
    slept before = delays (applied before) := by
  cases d with
  | work ticket act =>
    apply run.slept_of_awake
    rintro delay rfl
    exact calls rfl
  | submit | refuse | wait | drop | shutdown => exact absurd rfl calls

theorem Run.slept_le (run : Run inj (before ++ .work ticket act :: after) e) :
    slept before ≤ delays (applied before) := by
  obtain ⟨_, _, earlier, _⟩ := run.exists_step
  have punctual := earlier.slept_add_owed
  omega

theorem Run.attempts_split (run : Run inj (before ++ d :: after) e) :
    ∃ earlier later,
      e.attempts = earlier ++ d.attempts.map (TimedAttempt.mk · (slept before)) ++ later ∧
        earlier.map (·.toAttempt) = before.flatMap Deed.attempts := by
  obtain ⟨e₁, e₂, first, step, second⟩ := run.exists_step
  obtain ⟨later, parts⟩ := second.attempts_prefix
  refine ⟨e₁.attempts, later, ?_, first.made⟩
  rw [← parts, step.attempts_eq, first.clock]

/-- What there is to say about the times in a run. -/
structure Timetable (inj : Injector) (h : List Deed) (e : Emulator) : Prop where
  -- Time passes only while the worker sleeps.
  clock : e.clock = slept h
  -- The calls for an operation are made when the delays of all operations that went well before, of
  -- whichever sequences, are over, and no later.
  calls : ∀ before d after, h = before ++ d :: after → d.attempts ≠ [] →
    slept before = delays (applied before) ∧ ∃ earlier later,
      e.attempts =
          earlier ++ d.attempts.map (TimedAttempt.mk · (delays (applied before))) ++ later ∧
        earlier.map (·.toAttempt) = before.flatMap Deed.attempts
  -- A sequence is over only after the delay of its last operation.
  finished : ∀ ops ticket, .submit ops (.ticket ticket) ∈ h →
    e.outcome? (.ticket ticket) = some (.ok ()) →
    ∃ before after, h = before ++ .work ticket .finish :: after ∧
      acts ticket before = inj.work ops ∧ slept before = delays (applied before)
  -- Neither the operation that fails nor those after it are slept for.
  skipped : ∀ ops ticket op attempts fault, .submit ops (.ticket ticket) ∈ h →
    .work ticket (.fail op attempts fault) ∈ h →
    ∃ done rest, ops = done ++ op :: rest ∧ ((acts ticket h).map Act.slept).sum = delays done
  -- After an operation that went well its delay passes before the next one is tried.
  apart : ∀ before ticket op attempts between ticket' act after,
    h = before ++ .work ticket (.apply op attempts) :: (between ++ .work ticket' act :: after) →
    (∀ delay, act ≠ .sleep delay) →
    slept before + op.delayAfter ≤ slept (before ++ .work ticket (.apply op attempts) :: between)

theorem Run.finished {ops : List KeyOperation} (run : Run inj h e)
    (submitted : .submit ops (.ticket ticket) ∈ h)
    (ok : e.outcome? (.ticket ticket) = some (.ok ())) :
    ∃ before after, h = before ++ .work ticket .finish :: after ∧
      acts ticket before = inj.work ops ∧ slept before = delays (applied before) := by
  have whole := (run.report submitted).ok.mp ok
  obtain ⟨before, after, rfl, did⟩ := exists_of_acts_eq_concat whole
  exact ⟨before, after, rfl, did, run.slept_of_awake fun _ => nofun⟩

theorem Run.skipped {ops : List KeyOperation} {op : KeyOperation} {attempts : List Attempt}
    {fault : InjectionFault} (run : Run inj h e) (submitted : .submit ops (.ticket ticket) ∈ h)
    (failed : .work ticket (.fail op attempts fault) ∈ h) :
    ∃ done rest, ops = done ++ op :: rest ∧
      ((acts ticket h).map Act.slept).sum = delays done := by
  have did : .fail op attempts fault ∈ acts ticket h :=
    List.mem_filterMap.mpr ⟨_, failed, Deed.act?_work_self ticket _⟩
  obtain ⟨done, rest, _, _, _, parts, _, _, same⟩ :=
    (run.report submitted).failing op attempts fault did
  refine ⟨done, rest, parts, ?_⟩
  rw [same, List.map_append, List.map_append, List.sum_append, List.sum_append, inj.slept_work,
    Act.slept_calls]
  rfl

theorem Run.apart {op : KeyOperation} {attempts : List Attempt} {between : List Deed}
    {other : Nat} (run : Run inj
      (before ++ .work ticket (.apply op attempts) :: (between ++ .work other act :: after)) e)
    (awake : ∀ delay, act ≠ .sleep delay) :
    slept before + op.delayAfter ≤
      slept (before ++ .work ticket (.apply op attempts) :: between) := by
  have first : slept before ≤ delays (applied before) := run.slept_le
  rw [← List.cons_append, ← List.append_assoc] at run
  have next := run.slept_of_awake awake
  have spent : delays (applied (before ++ .work ticket (.apply op attempts) :: between)) =
      delays (applied before) + op.delayAfter + delays (applied between) := by
    rw [List.append_cons, applied_append, applied_append, applied_work, delays_append,
      delays_append]
    simp [Act.applied?, delays]
  omega

/-- However a run goes, every call comes exactly when the delays of all operations that went well
before it are over, and nothing else takes time: not what fails, nor what is abandoned. -/
theorem calls_punctual (run : Run inj h e) : Timetable inj h e where
  clock := run.clock
  calls := by
    rintro before d after rfl calls
    have punctual := run.slept_of_call calls
    refine ⟨punctual, ?_⟩
    rw [← punctual]
    exact run.attempts_split
  finished _ _ := run.finished
  skipped _ _ _ _ _ := run.skipped
  apart := by
    rintro before ticket op attempts between ticket' act after rfl awake
    exact run.apart awake

def interrupted : List Deed :=
  let three := (KeyOperation.tap .three).withDelay 20
  let one := (KeyOperation.tap .one).withDelay 30
  let two := (KeyOperation.hold .two).withDelay 7
  let stuck : InjectionFault := .crashed "stuck"
  [.submit [three, one, two] (.ticket 0), .submit [two] (.ticket 1), .work 0 .take,
    .work 0 (.start three), .work 0 (.call ⟨.press .three, .accepted⟩),
    .work 0 (.call ⟨.release .three, .accepted⟩),
    .work 0 (.apply three (accepting [.press .three, .release .three])), .work 0 (.sleep 20),
    .work 0 (.start one), .work 0 (.call ⟨.press .one, .accepted⟩),
    .work 0 (.call ⟨.release .one, stuck.reply⟩),
    .work 0 (.fail one (failing [.press .one] (.release .one) stuck) stuck),
    .work 1 .take, .work 1 (.start two), .work 1 (.call ⟨.press .two, .accepted⟩),
    .work 1 (.apply two (accepting [.press .two])), .work 1 (.sleep 7), .work 1 .finish]

theorem run_interrupted : ∃ e, Run jammed interrupted e := by
  have asked : Run jammed (interrupted.take 2) _ :=
    (Steps.refl.snoc (.submit rfl)).snoc (.submit rfl)
  have applied : Run jammed (interrupted.take 7) _ :=
    ((((asked.snoc (.work (.take rfl rfl rfl))).snoc (.work (.start rfl rfl))).snoc
      (.work (.call rfl))).snoc (.work (.call rfl))).snoc (.work (.apply rfl rfl rfl))
  have failed : Run jammed (interrupted.take 12) _ :=
    ((((applied.snoc (.work (.sleep rfl rfl))).snoc (.work (.start rfl rfl))).snoc
      (.work (.call rfl))).snoc (.work (.call rfl))).snoc (.work (.fail rfl rfl rfl))
  have run : Run jammed interrupted _ :=
    (((((failed.snoc (.work (.take rfl rfl rfl))).snoc (.work (.start rfl rfl))).snoc
      (.work (.call rfl))).snoc (.work (.apply rfl rfl rfl))).snoc (.work (.sleep rfl rfl))).snoc
      (.work (.finish rfl rfl))
  exact ⟨_, run⟩

theorem calls_punctual_interrupted :
    ∃ e, Run jammed interrupted e ∧ e.clock = 27 ∧
      ∃ earlier later, e.attempts = earlier ++ [⟨⟨.press .two, .accepted⟩, 20⟩] ++ later := by
  obtain ⟨e, run⟩ := run_interrupted
  have timetable := calls_punctual run
  have parts : interrupted = interrupted.take 14 ++
      .work 1 (.call ⟨.press .two, .accepted⟩) :: interrupted.drop 15 := rfl
  obtain ⟨_, earlier, later, made, _⟩ := timetable.calls _ _ _ parts (List.cons_ne_nil _ _)
  exact ⟨e, run, timetable.clock, earlier, later, made⟩

end Emulator

end Callout
