import Callout.Proofs.Emulator.Serial
import Mathlib.Data.List.Nodup

namespace Callout

namespace Deed

def act? (ticket : Nat) : Deed → Option Act
  | work other act => if other = ticket then some act else none
  | submit _ _ | refuse _ _ | wait _ _ | drop _ | shutdown => none

theorem act?_work_self (ticket : Nat) (act : Act) : (work ticket act).act? ticket = some act :=
  if_pos rfl

theorem act?_work_of_ne {ticket other : Nat} (act : Act) (apart : other ≠ ticket) :
    (work other act).act? ticket = none :=
  if_neg apart

end Deed

def acts (ticket : Nat) (h : List Deed) : List Act :=
  h.filterMap (Deed.act? ticket)

theorem acts_append (ticket : Nat) (h h' : List Deed) :
    acts ticket (h ++ h') = acts ticket h ++ acts ticket h' :=
  List.filterMap_append

theorem acts_snoc (ticket : Nat) (h : List Deed) (d : Deed) :
    acts ticket (h ++ [d]) = acts ticket h ++ (d.act? ticket).toList := by
  rw [acts_append]
  cases same : d.act? ticket <;> simp [acts, same]

theorem mem_of_mem_acts {ticket : Nat} {h : List Deed} {act : Act} (did : act ∈ acts ticket h) :
    .work ticket act ∈ h := by
  obtain ⟨d, member, same⟩ := List.mem_filterMap.mp did
  cases d with
  | work other act' =>
    simp only [Deed.act?, Option.ite_none_right_eq_some, Option.some.injEq] at same
    obtain ⟨rfl, rfl⟩ := same
    exact member
  | submit | refuse | wait | drop | shutdown => cases same

def Injector.acts (inj : Injector) (op : KeyOperation) : List Act :=
  let attempts := accepting (op.strokes inj.clicksAtOnce)
  .start op :: attempts.map .call ++
    .apply op attempts :: if op.delayAfter = 0 then [] else [.sleep op.delayAfter]

def Injector.work (inj : Injector) (ops : List KeyOperation) : List Act :=
  .take :: ops.flatMap inj.acts

theorem Injector.work_append (inj : Injector) (ops ops' : List KeyOperation) :
    inj.work (ops ++ ops') = inj.work ops ++ ops'.flatMap inj.acts := by
  simp [work]

/-- All that is done for a sequence that nothing interrupts, and how it goes then: well, or up to an
operation that fails. -/
inductive Course (inj : Injector) (ops : List KeyOperation) : Except Error Unit → List Act → Prop
  | good : Course inj ops (.ok ()) (inj.work ops ++ [.finish])
  | bad {done rest : List KeyOperation} {op : KeyOperation} {made lost : List Call} {call : Call}
      {fault : InjectionFault} (parts : ops = done ++ op :: rest)
      (calls : op.strokes inj.clicksAtOnce = made ++ call :: lost) :
      Course inj ops (.error (.injection fault))
        (inj.work done ++ .start op :: (failing made call fault).map .call ++
          [.fail op (failing made call fault) fault])

namespace Emulator

variable {inj : Injector} {e e' : Emulator} {h : List Deed} {ticket : Nat} {act : Act}

def current? (e : Emulator) : Option Nat :=
  match e.activity with
  | .idle => none
  | .performing ticket _ | .applying ticket _ _ _ _ | .pausing ticket _ _ => some ticket

def pending (e : Emulator) : List Nat :=
  e.current?.toList ++ e.queue.map (·.ticket)

def tickets (e : Emulator) : List Nat :=
  e.outcomes.map (·.1) ++ e.pending

theorem mem_pending_of_current (busy : e.current? = some ticket) : ticket ∈ e.pending := by
  simp [pending, busy]

theorem mem_pending_of_queued {s : Submission} (queued : s ∈ e.queue) : s.ticket ∈ e.pending :=
  List.mem_append_right _ (List.mem_map_of_mem queued)

/-- Every ticket was given out once, and stands for one sequence. -/
structure Orderly (e : Emulator) : Prop where
  nodup : e.tickets.Nodup
  issued : ∀ ticket ∈ e.tickets, ticket < e.nextTicket

theorem Work.tickets (work : Work e ticket act e') : e'.tickets = e.tickets := by
  cases work with
  | take _ idle queued => simp [Emulator.tickets, pending, current?, idle, queued]
  | start _ busy => simp [Emulator.tickets, pending, current?, busy]
  | call applying => simp [Emulator.tickets, pending, current?, applying, Emulator.call]
  | @apply _ op _ _ _ applied _ =>
    by_cases undelayed : op.delayAfter = 0 <;>
      simp [Emulator.tickets, pending, current?, applied, undelayed]
  | fail _ applied _ => simp [Emulator.tickets, pending, current?, applied, Emulator.finish]
  | sleep _ pausing => simp [Emulator.tickets, pending, current?, pausing]
  | finish _ done => simp [Emulator.tickets, pending, current?, done, Emulator.finish]

theorem tickets_eq_shutdown (e : Emulator) :
    e.tickets = e.shutdown.tickets ++ e.queue.map (·.ticket) := by
  simp [tickets, pending, shutdown, current?]

theorem Orderly.step {d : Deed} (orderly : e.Orderly) (step : Step e d e') : e'.Orderly := by
  cases step with
  | submit sent =>
    rcases submit_eq_ok sent with ⟨_, _, rfl⟩ | ⟨_, _, _, same⟩
    · exact orderly
    · have tickets : e'.tickets = e.tickets ++ [e.nextTicket] := by
        rw [same]
        simp [Emulator.tickets, pending, current?]
      have nextTicket : e'.nextTicket = e.nextTicket + 1 := by rw [same]
      constructor
      · rw [tickets]
        refine orderly.nodup.append (List.nodup_singleton _) ?_
        intro ticket old new
        obtain rfl := List.mem_singleton.mp new
        exact Nat.lt_irrefl _ (orderly.issued _ old)
      · intro ticket member
        rw [tickets] at member
        rcases List.mem_append.mp member with old | new
        · have less := orderly.issued ticket old
          omega
        · obtain rfl := List.mem_singleton.mp new
          omega
  | work work =>
    refine ⟨work.tickets ▸ orderly.nodup, ?_⟩
    rw [work.tickets, work.frame.2.1]
    exact orderly.issued
  | refuse | wait | drop => exact orderly
  | shutdown =>
    have nodup := orderly.nodup
    have issued := orderly.issued
    rw [tickets_eq_shutdown] at nodup issued
    exact ⟨nodup.of_append_left, fun ticket member => issued ticket (List.mem_append_left _ member)⟩

theorem Run.orderly (run : Run inj h e) : e.Orderly := by
  induction run with
  | refl => exact ⟨List.nodup_nil, fun _ => nofun⟩
  | snoc _ step ih => exact ih.step step

theorem Orderly.not_over (orderly : e.Orderly) (pending : ticket ∈ e.pending) :
    ticket ∉ e.outcomes.map (·.1) :=
  fun reported => List.disjoint_of_nodup_append orderly.nodup reported pending

theorem Orderly.queued_ne_current {s : Submission} (orderly : e.Orderly) (queued : s ∈ e.queue) :
    e.current? ≠ some s.ticket := by
  intro busy
  have unfinished : e.pending.Nodup := orderly.nodup.of_append_right
  have first : s.ticket ∈ e.current?.toList := by simp [busy]
  exact List.disjoint_of_nodup_append unfinished first (List.mem_map_of_mem queued)

theorem Work.cases_current (work : Work e ticket act e') :
    (act = .take ∧ e.current? = none ∧ ∃ s queue, e.queue = s :: queue ∧ s.ticket = ticket ∧
      e'.queue = queue ∧ e'.activity = .performing ticket s.operations) ∨
    (act ≠ .take ∧ e.current? = some ticket ∧ e'.queue = e.queue) := by
  cases work with
  | @take s queue running idle queued =>
    exact .inl ⟨rfl, by simp [current?, idle], s, queue, queued, rfl, rfl, rfl⟩
  | start _ activity | call activity | apply _ activity _ | fail _ activity _ | sleep _ activity
  | finish _ activity => exact .inr ⟨nofun, by simp [current?, activity], rfl⟩

theorem Work.mem_pending (work : Work e ticket act e') : ticket ∈ e.pending := by
  rcases work.cases_current with ⟨_, _, s, queue, queued, rfl, _⟩ | ⟨_, busy, _⟩
  · exact mem_pending_of_queued (queued ▸ List.mem_cons_self)
  · exact mem_pending_of_current busy

theorem Work.outcomes_prefix (work : Work e ticket act e') : e.outcomes <+: e'.outcomes := by
  cases work with
  | take | start | call | apply | sleep => exact List.prefix_rfl
  | fail | finish => exact List.prefix_append _ _

/-- How far a sequence has come, with what was done for it. -/
inductive Stage (inj : Injector) (e : Emulator) (ticket : Nat) (ops : List KeyOperation) :
    List Act → Prop
  | waiting (queued : ⟨ticket, ops⟩ ∈ e.queue) : Stage inj e ticket ops []
  | busy {done rest : List KeyOperation} (parts : ops = done ++ rest)
      (activity : e.activity = .performing ticket rest) : Stage inj e ticket ops (inj.work done)
  | applying {done rest : List KeyOperation} {op : KeyOperation} {made : List Attempt}
      {left : List Call} (parts : ops = done ++ op :: rest)
      (partway : Partway (op.strokes inj.clicksAtOnce) made left)
      (activity : e.activity = .applying ticket op made left rest) :
      Stage inj e ticket ops (inj.work done ++ .start op :: made.map .call)
  | pausing {done rest : List KeyOperation} {op : KeyOperation} {did : List Act}
      (parts : ops = done ++ op :: rest)
      (applied : did ++ [.sleep op.delayAfter] = inj.work (done ++ [op]))
      (activity : e.activity = .pausing ticket op.delayAfter rest) : Stage inj e ticket ops did
  | settled {outcome : Except Error Unit} {did : List Act} (course : Course inj ops outcome did)
      (settled : (ticket, outcome) ∈ e.outcomes) : Stage inj e ticket ops did
  | dropped (gone : e.running = false) (unknown : ticket ∉ e.tickets) : Stage inj e ticket ops []

namespace Stage

variable {ops done rest : List KeyOperation} {did : List Act} {other : Nat}

theorem of_work_waiting (queued : ⟨ticket, ops⟩ ∈ e.queue) (orderly : e.Orderly)
    (work : Work e ticket act e') : Stage inj e' ticket ops [act] := by
  -- No two tickets in the queue are the same, so this very sequence is taken.
  rcases work.cases_current with ⟨rfl, _, s, queue, head, named, _, activity⟩ | ⟨_, busy, _⟩
  · have nodup : (e.queue.map (·.ticket)).Nodup := orderly.nodup.of_append_right.of_append_right
    rw [head, List.map_cons, List.nodup_cons, named] at nodup
    rw [head] at queued
    rcases List.mem_cons.mp queued with rfl | later
    · exact .busy (List.nil_append ops).symm activity
    · exact absurd (List.mem_map_of_mem later) nodup.1
  · exact absurd busy (orderly.queued_ne_current queued)

theorem of_work_busy (injector : e.injector = inj) (parts : ops = done ++ rest)
    (activity : e.activity = .performing ticket rest) (work : Work e ticket act e') :
    Stage inj e' ticket ops (inj.work done ++ [act]) := by
  subst injector
  cases work with
  | take _ other | call other | apply _ other | fail _ other | sleep _ other =>
    rw [other] at activity
    cases activity
  | @start _ op rest _ busy =>
    rw [busy] at activity
    cases activity
    have fresh : Partway (op.strokes e.injector.clicksAtOnce) [] (e.injector.calls op) := by
      rw [Injector.calls_eq]
      exact .start _
    exact Stage.applying parts fresh rfl
  | finish _ empty =>
    rw [empty] at activity
    cases activity
    rw [List.append_nil] at parts
    subst parts
    exact .settled .good (List.mem_append_right _ (List.mem_singleton_self _))

theorem of_work_applying {op : KeyOperation} {made : List Attempt} {left : List Call}
    (injector : e.injector = inj) (parts : ops = done ++ op :: rest)
    (partway : Partway (op.strokes inj.clicksAtOnce) made left)
    (activity : e.activity = .applying ticket op made left rest) (work : Work e ticket act e') :
    Stage inj e' ticket ops (inj.work done ++ .start op :: made.map .call ++ [act]) := by
  subst injector
  have through : ops = (done ++ [op]) ++ rest := by simpa using parts
  cases work with
  | take _ other | start _ other | sleep _ other | finish _ other =>
    rw [other] at activity
    cases activity
  | @call _ _ _ next left _ applying =>
    rw [applying] at activity
    cases activity
    have more : Stage e.injector (e.call ticket op made next left rest) ticket ops _ :=
      .applying parts (partway.answered _) rfl
    simpa using more
  | apply _ applied fine =>
    rw [applied] at activity
    cases activity
    obtain rfl := partway.of_fine fine
    by_cases undelayed : op.delayAfter = 0
    · have more : e.injector.work (done ++ [op]) =
          e.injector.work done ++ .start op ::
            (accepting (op.strokes e.injector.clicksAtOnce)).map .call ++
              [.apply op (accepting (op.strokes e.injector.clicksAtOnce))] := by
        simp [Injector.work_append, Injector.acts, undelayed]
      rw [← more]
      exact .busy through (if_pos undelayed)
    · refine .pausing parts ?_ (if_neg undelayed)
      simp [Injector.work_append, Injector.acts, undelayed]
  | fail _ applied faulty =>
    rw [applied] at activity
    cases activity
    obtain ⟨_, _, _, calls, rfl⟩ := partway.of_fault faulty
    exact .settled (.bad parts calls) (List.mem_append_right _ (List.mem_singleton_self _))

theorem of_work_pausing {op : KeyOperation} (parts : ops = done ++ op :: rest)
    (applied : did ++ [.sleep op.delayAfter] = inj.work (done ++ [op]))
    (activity : e.activity = .pausing ticket op.delayAfter rest) (work : Work e ticket act e') :
    Stage inj e' ticket ops (did ++ [act]) := by
  cases work with
  | take _ other | start _ other | call other | apply _ other | fail _ other | finish _ other =>
    rw [other] at activity
    cases activity
  | sleep _ asleep =>
    rw [asleep] at activity
    cases activity
    rw [applied]
    exact .busy (by simpa using parts) rfl

theorem work_self (stage : Stage inj e ticket ops did) (orderly : e.Orderly)
    (injector : e.injector = inj) (work : Work e ticket act e') :
    Stage inj e' ticket ops (did ++ [act]) := by
  cases stage with
  | waiting queued => exact of_work_waiting queued orderly work
  | busy parts activity => exact of_work_busy injector parts activity work
  | applying parts partway activity =>
    exact of_work_applying injector parts partway activity work
  | pausing parts applied activity => exact of_work_pausing parts applied activity work
  | settled _ settled =>
    exact absurd (List.mem_map_of_mem settled) (orderly.not_over work.mem_pending)
  | dropped _ unknown => exact absurd (List.mem_append_right _ work.mem_pending) unknown

theorem work_other (stage : Stage inj e ticket ops did) (work : Work e other act e')
    (apart : other ≠ ticket) : Stage inj e' ticket ops did := by
  have current : e.current? ≠ some ticket := by
    rcases work.cases_current with ⟨_, none, _⟩ | ⟨_, busy, _⟩
    · simp [none]
    · simpa [busy] using apart
  cases stage with
  | waiting queued =>
    refine .waiting ?_
    rcases work.cases_current with ⟨_, _, s, queue, head, rfl, left, _⟩ | ⟨_, _, left⟩
    · rw [head] at queued
      rw [left]
      rcases List.mem_cons.mp queued with rfl | later
      · exact absurd rfl apart
      · exact later
    · rw [left]
      exact queued
  | busy _ activity | applying _ _ activity | pausing _ _ activity =>
    exact absurd (by simp [current?, activity]) current
  | settled course settled => exact .settled course (work.outcomes_prefix.subset settled)
  | dropped gone unknown =>
    exact .dropped (work.frame.2.2.trans gone) (work.tickets ▸ unknown)

theorem shutdown (stage : Stage inj e ticket ops did) (orderly : e.Orderly) :
    Stage inj e.shutdown ticket ops did := by
  cases stage with
  | waiting queued =>
    refine .dropped rfl ?_
    have nodup := orderly.nodup
    rw [tickets_eq_shutdown] at nodup
    intro known
    exact List.disjoint_of_nodup_append nodup known (List.mem_map_of_mem queued)
  | busy parts activity => exact .busy parts activity
  | applying parts partway activity => exact .applying parts partway activity
  | pausing parts applied activity => exact .pausing parts applied activity
  | settled course settled => exact .settled course settled
  | dropped gone unknown =>
    rw [tickets_eq_shutdown, List.mem_append, not_or] at unknown
    exact .dropped rfl unknown.1

theorem step {d : Deed} (stage : Stage inj e ticket ops did) (orderly : e.Orderly)
    (injector : e.injector = inj) (step : Step e d e') :
    Stage inj e' ticket ops (did ++ (d.act? ticket).toList) := by
  cases step with
  | @work _ other act work =>
    by_cases same : other = ticket
    · subst same
      rw [Deed.act?_work_self]
      exact stage.work_self orderly injector work
    · rw [Deed.act?_work_of_ne act same, Option.toList_none, List.append_nil]
      exact stage.work_other work same
  | submit sent =>
    rw [Deed.act?, Option.toList_none, List.append_nil]
    rcases submit_eq_ok sent with ⟨_, _, rfl⟩ | ⟨_, running, _, rfl⟩
    · exact stage
    · cases stage with
      | waiting queued => exact .waiting (List.mem_append_left _ queued)
      | busy parts activity => exact .busy parts activity
      | applying parts partway activity => exact .applying parts partway activity
      | pausing parts applied activity => exact .pausing parts applied activity
      | settled course settled => exact .settled course settled
      | dropped gone =>
        rw [running] at gone
        cases gone
  | refuse | wait | drop =>
    rw [Deed.act?, Option.toList_none, List.append_nil]
    exact stage
  | shutdown =>
    rw [Deed.act?, Option.toList_none, List.append_nil]
    exact stage.shutdown orderly

end Stage

theorem Step.nextTicket_le {d : Deed} (step : Step e d e') : e.nextTicket ≤ e'.nextTicket := by
  cases step with
  | submit sent =>
    rcases submit_eq_ok sent with ⟨_, _, rfl⟩ | ⟨_, _, _, rfl⟩
    · exact Nat.le_refl _
    · exact Nat.le_succ _
  | work work => exact Nat.le_of_eq work.frame.2.1.symm
  | refuse | wait | drop | shutdown => exact Nat.le_refl _

theorem Run.acts_eq_nil (run : Run inj h e) (fresh : e.nextTicket ≤ ticket) :
    acts ticket h = [] := by
  induction run with
  | refl => rfl
  | @snoc h d e e' steps step ih =>
    have earlier : e.nextTicket ≤ ticket := Nat.le_trans step.nextTicket_le fresh
    rw [acts_snoc, ih earlier, List.nil_append]
    cases step with
    | @work _ other act work =>
      have issued : other < e.nextTicket :=
        (Run.orderly steps).issued other (List.mem_append_right _ work.mem_pending)
      rw [Deed.act?_work_of_ne act (by omega), Option.toList_none]
    | submit | refuse | wait | drop | shutdown => rfl

theorem Run.submitted {ops : List KeyOperation} {c : Completion} (run : Run inj h e)
    (submitted : .submit ops c ∈ h) :
    (ops = [] ∧ c = .ready) ∨ (ops ≠ [] ∧ ∃ ticket, c = .ticket ticket) := by
  obtain ⟨_, _, _, _, step⟩ := run.step_of_mem submitted
  cases step with
  | submit sent =>
    rcases submit_eq_ok sent with ⟨empty, ready, _⟩ | ⟨filled, _, queued, _⟩
    · exact .inl ⟨empty, ready⟩
    · exact .inr ⟨filled, _, queued⟩

theorem Run.stage {ops : List KeyOperation} (run : Run inj h e)
    (submitted : .submit ops (.ticket ticket) ∈ h) : Stage inj e ticket ops (acts ticket h) := by
  induction run with
  | refl => cases submitted
  | @snoc h d e e' steps step ih =>
    rw [acts_snoc]
    rcases List.mem_append.mp submitted with earlier | now
    · exact (ih earlier).step (Run.orderly steps) (Run.injector steps) step
    · obtain rfl := List.mem_singleton.mp now
      cases step with
      | submit sent =>
        rcases submit_eq_ok sent with ⟨_, ready, _⟩ | ⟨_, _, given, rfl⟩
        · cases ready
        · cases given
          rw [Run.acts_eq_nil steps (Nat.le_refl _)]
          exact .waiting (List.mem_append_right _ (List.mem_singleton_self _))

end Emulator

end Callout
