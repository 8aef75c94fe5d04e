import Callout.Proofs.Emulator.Stage
import Callout.Proofs.Lookup

namespace Callout

def Act.verdict? : Act → Option (Except Error Unit)
  | finish => some (.ok ())
  | fail _ _ fault => some (.error (.injection fault))
  | take | start _ | call _ | apply _ _ | sleep _ => none

variable {inj : Injector} {ops : List KeyOperation} {did : List Act} {outcome : Except Error Unit}

theorem Injector.mem_work {act : Act} (member : act ∈ inj.work ops) :
    act = .take ∨ ∃ op, act = .start op ∨ (∃ call, act = .call ⟨call, .accepted⟩) ∨
      (∃ attempts, act = .apply op attempts) ∨ act = .sleep op.delayAfter := by
  rcases List.mem_cons.mp member with rfl | member
  · exact .inl rfl
  · obtain ⟨op, _, member⟩ := List.mem_flatMap.mp member
    refine .inr ⟨op, ?_⟩
    unfold acts accepting at member
    simp only [List.mem_append, List.mem_cons, List.map_map, List.mem_map] at member
    rcases member with (started | ⟨call, _, rfl⟩) | applied | slept
    · exact .inl started
    · exact .inr (.inl ⟨call, rfl⟩)
    · exact .inr (.inr (.inl ⟨_, applied⟩))
    · split at slept
      · cases slept
      · exact .inr (.inr (.inr (List.mem_singleton.mp slept)))

theorem Injector.verdict?_of_mem_work {act : Act} (member : act ∈ inj.work ops) :
    act.verdict? = none := by
  rcases Injector.mem_work member with rfl | ⟨_, rfl | ⟨_, rfl⟩ | ⟨_, rfl⟩ | rfl⟩ <;> rfl

theorem Injector.reply_of_mem_work {attempt : Attempt} (member : .call attempt ∈ inj.work ops) :
    attempt.reply = .accepted := by
  rcases Injector.mem_work member with taken | ⟨_, started | ⟨_, called⟩ | ⟨_, applied⟩ | slept⟩
  · cases taken
  · cases started
  · cases called
    rfl
  · cases applied
  · cases slept

theorem verdict?_of_mem_calls {op : KeyOperation} {made : List Attempt} {act : Act}
    (member : act ∈ Act.start op :: made.map .call) : act.verdict? = none := by
  rcases List.mem_cons.mp member with rfl | member
  · rfl
  · obtain ⟨_, _, rfl⟩ := List.mem_map.mp member
    rfl

namespace Course

theorem exists_last (course : Course inj ops outcome did) :
    ∃ before last, did = before ++ [last] ∧ (∀ act ∈ before, act.verdict? = none) ∧
      last.verdict? = some outcome := by
  cases course with
  | good => exact ⟨inj.work ops, .finish, rfl, fun _ => Injector.verdict?_of_mem_work, rfl⟩
  | bad =>
    refine ⟨_, _, rfl, ?_, rfl⟩
    intro act member
    rcases List.mem_append.mp member with member | member
    · exact Injector.verdict?_of_mem_work member
    · exact verdict?_of_mem_calls member

theorem verdict (course : Course inj ops outcome did) :
    did.findSome? Act.verdict? = some outcome := by
  obtain ⟨before, last, rfl, undecided, decided⟩ := course.exists_last
  rw [List.findSome?_append, List.findSome?_eq_none_iff.mpr undecided, Option.none_or,
    List.findSome?_singleton, decided]

theorem verdicts_eq_one (course : Course inj ops outcome did) :
    did.countP (·.verdict?.isSome) = 1 := by
  obtain ⟨before, last, rfl, undecided, decided⟩ := course.exists_last
  have none : before.countP (·.verdict?.isSome) = 0 := by
    apply List.countP_eq_zero.mpr
    intro act member
    simp [undecided act member]
  simp [none, decided]

theorem eq_good (course : Course inj ops (.ok ()) did) : did = inj.work ops ++ [.finish] := by
  cases course
  rfl

theorem eq_bad {op : KeyOperation} {attempts : List Attempt} {fault : InjectionFault}
    (course : Course inj ops outcome did) (failed : .fail op attempts fault ∈ did) :
    outcome = .error (.injection fault) ∧
    ∃ done rest made call lost, ops = done ++ op :: rest ∧
      op.strokes inj.clicksAtOnce = made ++ call :: lost ∧
      attempts = failing made call fault ∧
      did = inj.work done ++ .start op :: attempts.map .call ++ [.fail op attempts fault] := by
  obtain ⟨before, last, parts, undecided, decided⟩ := course.exists_last
  have latest : last = .fail op attempts fault := by
    rw [parts] at failed
    rcases List.mem_append.mp failed with member | member
    · cases undecided _ member
    · exact (List.mem_singleton.mp member).symm
  subst latest
  cases course with
  | good => cases (List.append_inj' parts rfl).2
  | bad ops calls =>
    cases (List.append_inj' parts rfl).2
    exact ⟨rfl, _, _, _, _, _, ops, calls, rfl, rfl⟩

theorem eq_of_broken {call : Call} {fault : InjectionFault} (course : Course inj ops outcome did)
    (broken : .call ⟨call, fault.reply⟩ ∈ did) : outcome = .error (.injection fault) := by
  cases course with
  | good =>
    rcases List.mem_append.mp broken with member | member
    · cases fault.reply_ne_accepted (Injector.reply_of_mem_work member)
    · cases List.mem_singleton.mp member
  | bad =>
    simp only [List.mem_append, List.mem_cons, List.mem_map, List.not_mem_nil, or_false, failing,
      accepting] at broken
    rcases broken with (member | started | ⟨_, (⟨_, _, rfl⟩ | rfl), called⟩) | failed
    · cases fault.reply_ne_accepted (Injector.reply_of_mem_work member)
    · cases started
    · cases fault.reply_ne_accepted (Attempt.mk.inj (Act.call.inj called)).2.symm
    · rw [InjectionFault.reply_inj (Attempt.mk.inj (Act.call.inj called)).2]
    · cases failed

end Course

inductive Standing (inj : Injector) (ops : List KeyOperation) (did : List Act) : Prop
  | undecided (silent : ∀ act ∈ did, act.verdict? = none)
  | settled {outcome : Except Error Unit} (course : Course inj ops outcome did)

namespace Standing

variable {fault : InjectionFault}

theorem ok_iff (standing : Standing inj ops did) :
    did.findSome? Act.verdict? = some (.ok ()) ↔ did = inj.work ops ++ [.finish] := by
  constructor
  · intro ok
    cases standing with
    | undecided silent =>
      rw [List.findSome?_eq_none_iff.mpr silent] at ok
      cases ok
    | settled course =>
      rw [course.verdict] at ok
      cases ok
      exact course.eq_good
  · rintro rfl
    exact Course.good.verdict

theorem failing {op : KeyOperation} {attempts : List Attempt} (standing : Standing inj ops did)
    (failed : .fail op attempts fault ∈ did) :
    did.findSome? Act.verdict? = some (.error (.injection fault)) ∧
    ∃ done rest made call lost, ops = done ++ op :: rest ∧
      op.strokes inj.clicksAtOnce = made ++ call :: lost ∧
      attempts = failing made call fault ∧
      did = inj.work done ++ .start op :: attempts.map .call ++ [.fail op attempts fault] := by
  cases standing with
  | undecided silent => cases silent _ failed
  | settled course =>
    obtain ⟨rfl, parts⟩ := course.eq_bad failed
    exact ⟨course.verdict, parts⟩

theorem injection_iff (standing : Standing inj ops did) :
    did.findSome? Act.verdict? = some (.error (.injection fault)) ↔
      ∃ op attempts, .fail op attempts fault ∈ did := by
  constructor
  · intro failed
    obtain ⟨act, member, verdict⟩ := List.exists_of_findSome?_eq_some failed
    cases act with
    | fail op attempts other =>
      cases verdict
      exact ⟨op, attempts, member⟩
    | finish | take | start | call | apply | sleep => cases verdict
  · rintro ⟨op, attempts, failed⟩
    exact (standing.failing failed).1

theorem verdicts_le_one (standing : Standing inj ops did) :
    did.countP (·.verdict?.isSome) ≤ 1 := by
  cases standing with
  | undecided silent =>
    have none : did.countP (·.verdict?.isSome) = 0 := by
      apply List.countP_eq_zero.mpr
      intro act member
      simp [silent act member]
    omega
  | settled course => exact Nat.le_of_eq course.verdicts_eq_one

end Standing

namespace Emulator

variable {e e' : Emulator} {h : List Deed} {ticket : Nat} {c : Completion}

theorem Stage.course (stage : Stage inj e ticket ops did) :
    ∃ outcome all, Course inj ops outcome all ∧ did <+: all := by
  have going {part rest : List KeyOperation} (parts : ops = part ++ rest)
      (cut : did <+: inj.work part) : ∃ outcome all, Course inj ops outcome all ∧ did <+: all := by
    refine ⟨_, _, .good, cut.trans ?_⟩
    rw [parts, Injector.work_append, List.append_assoc]
    exact List.prefix_append _ _
  cases stage with
  | waiting | dropped => exact going (List.append_nil ops).symm List.nil_prefix
  | busy parts => exact going parts List.prefix_rfl
  | @applying done rest op made left parts partway =>
    cases partway with
    | @fine before _ calls =>
      have through : ops = (done ++ [op]) ++ rest := by simpa using parts
      refine going through ?_
      simp [Injector.work_append, Injector.acts, calls, accepting_append]
    | @broken _ _ _ fault calls =>
      have course : Course inj ops (.error (.injection fault)) _ := .bad parts calls
      exact ⟨_, _, course, List.prefix_append _ _⟩
  | @pausing done rest op _ parts applied =>
    have through : ops = (done ++ [op]) ++ rest := by simpa using parts
    refine going through ?_
    rw [← applied]
    exact List.prefix_append _ _
  | settled course => exact ⟨_, _, course, List.prefix_rfl⟩

theorem Stage.undecided_or_over (stage : Stage inj e ticket ops did) (orderly : e.Orderly) :
    (ticket ∉ e.outcomes.map (·.1) ∧ ∀ act ∈ did, act.verdict? = none) ∨
    ∃ outcome, Course inj ops outcome did ∧ (ticket, outcome) ∈ e.outcomes := by
  cases stage with
  | waiting queued =>
    exact .inl ⟨orderly.not_over (mem_pending_of_queued queued), List.forall_mem_nil _⟩
  | busy _ activity =>
    have current : e.current? = some ticket := by simp [current?, activity]
    have unreported := orderly.not_over (mem_pending_of_current current)
    exact .inl ⟨unreported, fun _ => Injector.verdict?_of_mem_work⟩
  | applying _ _ activity =>
    have current : e.current? = some ticket := by simp [current?, activity]
    refine .inl ⟨orderly.not_over (mem_pending_of_current current), ?_⟩
    intro act member
    rcases List.mem_append.mp member with member | member
    · exact Injector.verdict?_of_mem_work member
    · exact verdict?_of_mem_calls member
  | pausing _ applied activity =>
    have current : e.current? = some ticket := by simp [current?, activity]
    refine .inl ⟨orderly.not_over (mem_pending_of_current current), ?_⟩
    intro act member
    exact Injector.verdict?_of_mem_work (applied ▸ List.mem_append_left _ member)
  | settled course settled => exact .inr ⟨_, course, settled⟩
  | dropped _ unknown =>
    exact .inl ⟨fun known => unknown (List.mem_append_left _ known), List.forall_mem_nil _⟩

theorem Stage.standing (stage : Stage inj e ticket ops did) (orderly : e.Orderly) :
    Standing inj ops did := by
  rcases stage.undecided_or_over orderly with ⟨_, silent⟩ | ⟨_, course, _⟩
  · exact .undecided silent
  · exact .settled course

theorem Stage.lookup_outcomes (stage : Stage inj e ticket ops did) (orderly : e.Orderly) :
    e.outcomes.lookup ticket = did.findSome? Act.verdict? := by
  rcases stage.undecided_or_over orderly with ⟨unreported, undecided⟩ | ⟨outcome, course, settled⟩
  · rw [lookup_of_not_mem unreported, List.findSome?_eq_none_iff.mpr undecided]
  · rw [lookup_of_nodup orderly.nodup.of_append_left settled, course.verdict]

theorem Run.outcome?_ticket (run : Run inj h e) (submitted : .submit ops (.ticket ticket) ∈ h) :
    e.outcome? (.ticket ticket) =
      ((acts ticket h).findSome? Act.verdict?).or
        (if e.running then none else some (.error .emulatorClosed)) := by
  unfold outcome?
  simp only [(run.stage submitted).lookup_outcomes run.orderly]
  cases (acts ticket h).findSome? Act.verdict? <;> rfl

theorem Work.outcomes_of_gone {act : Act} (work : Work e ticket act e')
    (gone : e.running = false) :
    e'.outcomes = e.outcomes ∧ ∃ attempt, act = .call attempt := by
  cases work with
  | call => exact ⟨rfl, _, rfl⟩
  | take running | start running | apply running | fail running | sleep running
  | finish running =>
    rw [running] at gone
    cases gone

theorem Step.outcome?_eq {d : Deed} (step : Step e d e') (settled : e.outcome? c = some outcome) :
    e'.outcome? c = some outcome := by
  cases c with
  | ready => exact settled
  | ticket n =>
    cases step with
    | submit sent =>
      rcases submit_eq_ok sent with ⟨_, _, rfl⟩ | ⟨_, _, _, rfl⟩ <;> exact settled
    | refuse | wait | drop => exact settled
    | work work =>
      unfold outcome? at settled ⊢
      simp only at settled ⊢
      cases found : e.outcomes.lookup n with
      | none =>
        cases running : e.running with
        | true => simp [found, running] at settled
        | false =>
          rw [(work.outcomes_of_gone running).1, work.frame.2.2]
          exact settled
      | some first =>
        rw [found] at settled
        rw [work.outcomes_prefix.lookup_eq_some found]
        exact settled
    | shutdown =>
      unfold outcome? at settled ⊢
      simp only [Emulator.shutdown] at settled ⊢
      cases found : e.outcomes.lookup n with
      | none =>
        cases running : e.running with
        | true => simp [found, running] at settled
        | false => simpa [found, running] using settled
      | some first => simpa [found] using settled

theorem Steps.outcome?_eq (steps : Steps e h e') (settled : e.outcome? c = some outcome) :
    e'.outcome? c = some outcome := by
  induction steps with
  | refl => exact settled
  | snoc _ step ih => exact step.outcome?_eq ih

def left (e : Emulator) : List Call :=
  match e.activity with
  | .applying _ _ _ left _ => left
  | .idle | .performing _ _ | .pausing _ _ _ => []

/-- Without the worker there are only calls: those left for the operation that was being applied. -/
structure Leftover (inj : Injector) (e : Emulator) (h : List Deed) (e' : Emulator) : Prop where
  works : ∀ ticket act, .work ticket act ∈ h →
    e.current? = some ticket ∧ ∃ attempt, act = .call attempt
  made : e'.made = e.made ++ h.flatMap Deed.attempts
  calls : h.flatMap Deed.attempts = [] ∨ ∃ ticket op done left rest,
    e.activity = .applying ticket op (accepting done) left rest ∧
      op.strokes inj.clicksAtOnce = done ++ left ∧ accepting done <:+ e.made ∧
        (h.flatMap Deed.attempts).map (·.call) <+: left

theorem Work.left_of_call {attempt : Attempt} (work : Work e ticket (.call attempt) e') :
    attempt.call :: e'.left <+: e.left ∧ e.current? = some ticket ∧
      e'.current? = some ticket := by
  cases work with
  | call applying =>
    simp only [Emulator.left, applying, current?, Emulator.call]
    refine ⟨?_, trivial, trivial⟩
    split
    · exact List.prefix_rfl
    · exact List.prefix_append [_] _

theorem Step.of_gone {d : Deed} (step : Step e d e') (gone : e.running = false) :
    e'.running = false ∧ e'.current? = e.current? ∧
      d.attempts.map (·.call) ++ e'.left <+: e.left ∧
      ∀ ticket act, d = .work ticket act →
        e.current? = some ticket ∧ ∃ attempt, act = .call attempt := by
  cases step with
  | submit sent =>
    rcases submit_eq_ok sent with ⟨_, _, rfl⟩ | ⟨_, running, _⟩
    · exact ⟨gone, rfl, List.prefix_rfl, fun _ _ => nofun⟩
    · rw [running] at gone
      cases gone
  | refuse | wait | drop => exact ⟨gone, rfl, List.prefix_rfl, fun _ _ => nofun⟩
  | shutdown => exact ⟨rfl, rfl, List.prefix_rfl, fun _ _ => nofun⟩
  | work work =>
    obtain ⟨_, attempt, rfl⟩ := work.outcomes_of_gone gone
    obtain ⟨left, before, after⟩ := work.left_of_call
    refine ⟨work.frame.2.2.trans gone, after.trans before.symm, left, ?_⟩
    intro ticket act same
    cases same
    exact ⟨before, attempt, rfl⟩

theorem Steps.of_gone (steps : Steps e h e') (gone : e.running = false) :
    e'.running = false ∧ e'.current? = e.current? ∧
      (h.flatMap Deed.attempts).map (·.call) ++ e'.left <+: e.left ∧
      ∀ ticket act, .work ticket act ∈ h →
        e.current? = some ticket ∧ ∃ attempt, act = .call attempt := by
  induction steps with
  | refl => exact ⟨gone, rfl, List.prefix_rfl, fun _ _ => nofun⟩
  | snoc _ step ih =>
    obtain ⟨gone, current, left, works⟩ := ih
    obtain ⟨gone, current', left', work⟩ := step.of_gone gone
    refine ⟨gone, current'.trans current, ?_, ?_⟩
    · rw [List.flatMap_append, List.flatMap_singleton, List.map_append, List.append_assoc]
      exact ((List.prefix_append_right_inj _).mpr left').trans left
    · intro ticket act member
      rcases List.mem_append.mp member with earlier | now
      · exact works ticket act earlier
      · rw [← current]
        exact work ticket act (List.mem_singleton.mp now).symm

theorem Steps.made (steps : Steps e h e') : e'.made = e.made ++ h.flatMap Deed.attempts := by
  induction steps with
  | refl => simp
  | snoc _ step ih =>
    rw [step.made, ih, List.flatMap_append, List.flatMap_singleton, List.append_assoc]

theorem Run.leftover {h' : List Deed} (run : Run inj h e) (gone : e.running = false)
    (steps : Steps e h' e') : Leftover inj e h' e' := by
  obtain ⟨_, _, calls, works⟩ := steps.of_gone gone
  refine ⟨works, steps.made, ?_⟩
  rcases List.eq_nil_or_concat' (h'.flatMap Deed.attempts) with none | ⟨_, _, some⟩
  · exact .inl none
  · have first := (List.prefix_append _ _).trans calls
    cases activity : e.activity with
    | applying ticket op made left rest =>
      have now : e.left = left := by simp [Emulator.left, activity]
      rw [now] at first
      obtain ⟨partway, latest⟩ := run.partway activity
      cases left with
      | nil => simp [some] at first
      | cons next left =>
        obtain ⟨done, parts, rfl⟩ := partway.parts_of_cons
        exact .inr ⟨ticket, op, done, _, rest, rfl, parts, latest, first⟩
    | idle | performing | pausing =>
      have nothing : e.left = [] := by simp [Emulator.left, activity]
      rw [nothing] at first
      simp [some] at first

theorem Run.verdict_shutdown {before after : List Deed}
    (run : Run inj (before ++ .shutdown :: after) e) :
    (acts ticket (before ++ .shutdown :: after)).findSome? Act.verdict? =
      (acts ticket before).findSome? Act.verdict? := by
  obtain ⟨e₁, e₂, _, step, steps⟩ := run.exists_step
  cases step with
  | shutdown =>
    have later : (acts ticket (.shutdown :: after)).findSome? Act.verdict? = none := by
      apply List.findSome?_eq_none_iff.mpr
      intro act did
      rcases List.mem_cons.mp (mem_of_mem_acts did) with same | member
      · cases same
      · obtain ⟨_, attempt, rfl⟩ := (steps.of_gone rfl).2.2.2 _ _ member
        rfl
    rw [acts_append, List.findSome?_append, later, Option.or_none]

/-- What there is to say about how a sequence went. -/
structure Report (inj : Injector) (h : List Deed) (e : Emulator) (ticket : Nat)
    (ops : List KeyOperation) : Prop where
  once : (acts ticket h).countP (·.verdict?.isSome) ≤ 1
  kinds : ∀ outcome, e.outcome? (.ticket ticket) = some outcome →
    outcome = .ok () ∨ (∃ fault, outcome = .error (.injection fault)) ∨
      outcome = .error .emulatorClosed
  course : ∃ outcome all, Course inj ops outcome all ∧ acts ticket h <+: all
  -- All operations were carried out, and all delays waited for.
  ok : e.outcome? (.ticket ticket) = some (.ok ()) ↔
    acts ticket h = inj.work ops ++ [.finish]
  injection : ∀ fault, e.outcome? (.ticket ticket) = some (.error (.injection fault)) ↔
    ∃ op attempts, .fail op attempts fault ∈ acts ticket h
  -- Just the operations before the one that failed were carried out.
  failing : ∀ op attempts fault, .fail op attempts fault ∈ acts ticket h →
    ∃ done rest made call lost, ops = done ++ op :: rest ∧
      op.strokes inj.clicksAtOnce = made ++ call :: lost ∧
      attempts = failing made call fault ∧
      acts ticket h =
        inj.work done ++ .start op :: attempts.map .call ++ [.fail op attempts fault]
  broken : ∀ call fault outcome, .call ⟨call, fault.reply⟩ ∈ acts ticket h →
    e.outcome? (.ticket ticket) = some outcome →
      outcome = .error (.injection fault) ∨ outcome = .error .emulatorClosed
  -- The worker went away before the sequence was over.
  closed : e.outcome? (.ticket ticket) = some (.error .emulatorClosed) ↔
    ∃ before after, h = before ++ .shutdown :: after ∧
      ∀ act ∈ acts ticket before, act.verdict? = none

theorem Run.outcome?_eq_some_iff (run : Run inj h e)
    (submitted : .submit ops (.ticket ticket) ∈ h) :
    e.outcome? (.ticket ticket) = some outcome ↔
      (acts ticket h).findSome? Act.verdict? = some outcome ∨
      (acts ticket h).findSome? Act.verdict? = none ∧ e.running = false ∧
        outcome = .error .emulatorClosed := by
  rw [run.outcome?_ticket submitted]
  cases (acts ticket h).findSome? Act.verdict? <;> cases e.running <;> simp [eq_comm]

theorem Run.closed_iff (run : Run inj h e) (submitted : .submit ops (.ticket ticket) ∈ h) :
    e.outcome? (.ticket ticket) = some (.error .emulatorClosed) ↔
      ∃ before after, h = before ++ .shutdown :: after ∧
        ∀ act ∈ acts ticket before, act.verdict? = none := by
  rw [run.outcome?_eq_some_iff submitted]
  constructor
  · rintro (verdict | ⟨verdict, gone, _⟩)
    · obtain ⟨act, _, verdict⟩ := List.exists_of_findSome?_eq_some verdict
      cases act <;> cases verdict
    · obtain ⟨before, after, rfl⟩ := List.append_of_mem (run.gone_iff.mp gone)
      refine ⟨before, after, rfl, ?_⟩
      rw [run.verdict_shutdown] at verdict
      exact List.findSome?_eq_none_iff.mp verdict
  · rintro ⟨before, after, rfl, undecided⟩
    have gone : e.running = false := run.gone_iff.mpr (by simp)
    rw [run.verdict_shutdown]
    exact .inr ⟨List.findSome?_eq_none_iff.mpr undecided, gone, rfl⟩

theorem Run.kinds (run : Run inj h e) (submitted : .submit ops (.ticket ticket) ∈ h)
    (settled : e.outcome? (.ticket ticket) = some outcome) :
    outcome = .ok () ∨ (∃ fault, outcome = .error (.injection fault)) ∨
      outcome = .error .emulatorClosed := by
  rcases (run.outcome?_eq_some_iff submitted).mp settled with verdict | ⟨_, _, rfl⟩
  · obtain ⟨act, _, verdict⟩ := List.exists_of_findSome?_eq_some verdict
    cases act with
    | finish =>
      cases verdict
      exact .inl rfl
    | fail _ _ fault =>
      cases verdict
      exact .inr (.inl ⟨fault, rfl⟩)
    | take | start | call | apply | sleep => cases verdict
  · exact .inr (.inr rfl)

theorem Run.broken {call : Call} {fault : InjectionFault} (run : Run inj h e)
    (submitted : .submit ops (.ticket ticket) ∈ h)
    (failed : .call ⟨call, fault.reply⟩ ∈ acts ticket h)
    (settled : e.outcome? (.ticket ticket) = some outcome) :
    outcome = .error (.injection fault) ∨ outcome = .error .emulatorClosed := by
  obtain ⟨sure, all, course, rest, parts⟩ := (run.stage submitted).course
  have broken : sure = .error (.injection fault) :=
    course.eq_of_broken (parts ▸ List.mem_append_left rest failed)
  rcases (run.outcome?_eq_some_iff submitted).mp settled with verdict | ⟨_, _, closed⟩
  · have same := course.verdict
    rw [← parts, List.findSome?_append, verdict, Option.some_or] at same
    exact .inl ((Option.some.inj same).trans broken)
  · exact .inr closed

theorem Run.report (run : Run inj h e) (submitted : .submit ops (.ticket ticket) ∈ h) :
    Report inj h e ticket ops := by
  have standing := (run.stage submitted).standing run.orderly
  refine ⟨standing.verdicts_le_one, fun _ => run.kinds submitted, (run.stage submitted).course,
    ?_, ?_, ?_, fun _ _ _ => run.broken submitted, run.closed_iff submitted⟩
  · rw [run.outcome?_eq_some_iff submitted, ← standing.ok_iff]
    simp
  · intro fault
    rw [run.outcome?_eq_some_iff submitted, ← standing.injection_iff]
    simp
  · intro op attempts fault failed
    exact (standing.failing failed).2

theorem Run.waited (run : Run inj h e) (waited : .wait c outcome ∈ h) :
    e.outcome? c = some outcome := by
  induction run with
  | refl => cases waited
  | snoc _ step ih =>
    rcases List.mem_append.mp waited with earlier | now
    · exact step.outcome?_eq (ih earlier)
    · obtain rfl := List.mem_singleton.mp now
      cases step with
      | wait settled => exact settled

theorem Run.settled (run : Run inj h e) (gone : e.running = false)
    (submitted : .submit ops c ∈ h) : ∃ outcome, e.outcome? c = some outcome := by
  rcases run.submitted submitted with ⟨_, rfl⟩ | ⟨_, ticket, rfl⟩
  · exact ⟨_, rfl⟩
  · rw [run.outcome?_ticket submitted, gone]
    cases (acts ticket h).findSome? Act.verdict? <;> exact ⟨_, rfl⟩

theorem Run.exists_outcome (run : Run inj h e) (submitted : .submit ops c ∈ h)
    (stopped : e.step? = none) : ∃ outcome, e.outcome? c = some outcome := by
  cases running : e.running with
  | false => exact run.settled running submitted
  | true =>
    rcases run.submitted submitted with ⟨_, rfl⟩ | ⟨_, ticket, rfl⟩
    · exact ⟨_, rfl⟩
    · obtain ⟨idle, empty⟩ := idle_of_step?_eq_none running stopped
      have told := run.outcome?_ticket submitted
      have stage := run.stage submitted
      generalize acts ticket h = did at stage told
      cases stage with
      | waiting queued =>
        rw [empty] at queued
        cases queued
      | busy _ activity | applying _ _ activity | pausing _ _ activity =>
        rw [idle] at activity
        cases activity
      | settled course => exact ⟨_, by rw [told, course.verdict, Option.some_or]⟩
      | dropped gone =>
        rw [running] at gone
        cases gone

theorem Run.await (run : Run inj h e) (submitted : .submit ops c ∈ h) :
    ∃ outcome, (e.await [c]).outcome? c = some outcome := by
  obtain ⟨h', _, steps, stopped⟩ :=
    steps_stepsUntil (fun e => [c].all (e.outcome? · |>.isSome)) (Nat.le_refl e.workLeft)
  have after : Run inj (h ++ h') (e.await [c]) := run.trans steps
  rcases stopped with settled | stopped
  · have told : ((e.await [c]).outcome? c).isSome := by
      simpa [Emulator.await] using settled
    exact Option.isSome_iff_exists.mp told
  · exact after.exists_outcome (List.mem_append_left _ submitted) stopped

/-- Completions tell what the worker got to know, whatever order things happen in. Once it is gone
only calls that are left for an operation are made, and nobody waits. -/
theorem completions_report (run : Run inj h e) :
    e.made = h.flatMap Deed.attempts ∧
    (∀ ops c, .submit ops c ∈ h →
      (ops = [] ∧ c = .ready ∧ e.outcome? c = some (.ok ()) ∨
        ops ≠ [] ∧ ∃ ticket, c = .ticket ticket ∧ Report inj h e ticket ops) ∧
      ∃ outcome, (e.await [c]).outcome? c = some outcome) ∧
    (∀ c outcome, .wait c outcome ∈ h → e.outcome? c = some outcome) ∧
    (∀ c outcome h' e', e.outcome? c = some outcome → Steps e h' e' →
      e'.outcome? c = some outcome) ∧
    (.shutdown ∈ h →
      (∀ h' e', Steps e h' e' → Leftover inj e h' e') ∧
      (∀ ops, ops ≠ [] → e.submit ops = .error .emulatorClosed) ∧
      ∀ ops c, .submit ops c ∈ h → ∃ outcome, e.outcome? c = some outcome) := by
  refine ⟨run.made, ?_, fun _ _ => run.waited,
    fun _ _ _ _ settled steps => steps.outcome?_eq settled, ?_⟩
  · intro ops c submitted
    refine ⟨?_, run.await submitted⟩
    rcases run.submitted submitted with ⟨empty, rfl⟩ | ⟨filled, ticket, rfl⟩
    · exact .inl ⟨empty, rfl, rfl⟩
    · exact .inr ⟨filled, ticket, rfl, run.report submitted⟩
  · intro shut
    have gone : e.running = false := run.gone_iff.mpr shut
    refine ⟨fun _ _ => run.leftover gone, ?_, fun _ _ => run.settled gone⟩
    intro ops filled
    simp [submit, filled, gone]

def jam : List Deed :=
  [.submit [.tap .one, .tap .two] (.ticket 0), .submit [.tap .three] (.ticket 1), .work 0 .take,
    .work 0 (.start (.tap .one)), .work 0 (.call ⟨.press .one, .accepted⟩),
    .work 0 (.call ⟨.release .one, .crashed "stuck"⟩),
    .work 0 (.fail (.tap .one) [⟨.press .one, .accepted⟩, ⟨.release .one, .crashed "stuck"⟩]
      (.crashed "stuck")),
    .work 1 .take, .work 1 (.start (.tap .three)), .work 1 (.call ⟨.press .three, .accepted⟩)]

theorem run_jam : ∃ e, Run jammed jam e := by
  have asked : Run jammed (jam.take 2) _ := (Steps.refl.snoc (.submit rfl)).snoc (.submit rfl)
  have tried : Run jammed (jam.take 6) _ :=
    (((asked.snoc (.work (.take rfl rfl rfl))).snoc (.work (.start rfl rfl))).snoc
      (.work (.call rfl))).snoc (.work (.call rfl))
  have run : Run jammed jam _ :=
    (((tried.snoc (.work (.fail rfl rfl rfl))).snoc (.work (.take rfl rfl rfl))).snoc
      (.work (.start rfl rfl))).snoc (.work (.call rfl))
  exact ⟨_, run⟩

theorem completions_report_jammed :
    ∃ e, Run jammed (jam ++ [.shutdown]) e ∧
      e.outcome? (.ticket 0) = some (.error (.injection (.crashed "stuck"))) ∧
      e.outcome? (.ticket 1) = some (.error .emulatorClosed) ∧
      e.made = [⟨.press .one, .accepted⟩, ⟨.release .one, .crashed "stuck"⟩,
        ⟨.press .three, .accepted⟩] ∧
      ∀ h' e', Steps e h' e' → Leftover jammed e h' e' := by
  obtain ⟨_, pressed⟩ := run_jam
  have run := pressed.snoc .shutdown
  obtain ⟨made, reports, _, _, after⟩ := completions_report run
  obtain ⟨first, _⟩ := reports [.tap .one, .tap .two] (.ticket 0) (by simp [jam])
  obtain ⟨second, _⟩ := reports [.tap .three] (.ticket 1) (by simp [jam])
  rcases first with ⟨empty, _⟩ | ⟨_, _, same, first⟩
  · cases empty
  cases same
  rcases second with ⟨empty, _⟩ | ⟨_, _, same, second⟩
  · cases empty
  cases same
  refine ⟨_, run, ?_, ?_, made, (after (by simp)).1⟩
  · refine (first.injection _).mpr
      ⟨.tap .one, [⟨.press .one, .accepted⟩, ⟨.release .one, .crashed "stuck"⟩], by decide⟩
  · exact second.closed.mpr ⟨jam, [], rfl, by decide⟩

/-- An operation that breaks down when the worker is gone goes unnoticed: the call is made after the
shutdown, and its sequence is said to be given up. -/
theorem crash_unreported :
    ∃ h e h' e', Run jammed h e ∧ .shutdown ∈ h ∧ e.made = [⟨.press .one, .accepted⟩] ∧
      Steps e h' e' ∧ e'.made = [⟨.press .one, .accepted⟩, ⟨.release .one, .crashed "stuck"⟩] ∧
      e'.outcome? (.ticket 0) = some (.error .emulatorClosed) := by
  have asked : Run jammed [.submit [.tap .one] (.ticket 0)] _ := Steps.refl.snoc (.submit rfl)
  have pressed : Run jammed [.submit [.tap .one] (.ticket 0), .work 0 .take,
      .work 0 (.start (.tap .one)), .work 0 (.call ⟨.press .one, .accepted⟩)] _ :=
    ((asked.snoc (.work (.take rfl rfl rfl))).snoc (.work (.start rfl rfl))).snoc
      (.work (.call rfl))
  have run := pressed.snoc .shutdown
  exact ⟨_, _, _, _, run, by simp, rfl, Steps.refl.snoc (.work (.call rfl)), rfl, rfl⟩

end Emulator

end Callout
