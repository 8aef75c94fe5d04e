import Callout.Emulator.Basic
import Callout.Proofs.Injector
import Mathlib.Data.List.Induction

namespace Callout

/-- What is done in one step, for one sequence. The calls for an operation come between its start
and the step that tells how it went. -/
inductive Act where
  | take
  | start (op : KeyOperation)
  | call (attempt : Attempt)
  | apply (op : KeyOperation) (attempts : List Attempt)
  | fail (op : KeyOperation) (attempts : List Attempt) (fault : InjectionFault)
  | sleep (delay : Nat)
  | finish
  deriving DecidableEq

inductive Deed where
  | submit (ops : List KeyOperation) (c : Completion)
  | refuse (ops : List KeyOperation) (error : Error)
  | work (ticket : Nat) (act : Act)
  | wait (c : Completion) (outcome : Except Error Unit)
  | drop (c : Completion)
  | shutdown

def Act.attempts : Act → List Attempt
  | call attempt => [attempt]
  | take | start _ | apply _ _ | fail _ _ _ | sleep _ | finish => []

def Deed.attempts : Deed → List Attempt
  | work _ act => act.attempts
  | submit _ _ | refuse _ _ | wait _ _ | drop _ | shutdown => []

namespace Emulator

variable {inj : Injector} {e e' e'' : Emulator} {h : List Deed} {ticket : Nat} {act : Act}

/-- A step for the sequence with a ticket. The worker is not needed for the calls of an operation
that it has started. -/
inductive Work (e : Emulator) : Nat → Act → Emulator → Prop
  | take {s : Submission} {queue : List Submission} (running : e.running = true)
      (idle : e.activity = .idle) (queued : e.queue = s :: queue) :
      Work e s.ticket .take { e with queue, activity := .performing s.ticket s.operations }
  | start {ticket : Nat} {op : KeyOperation} {rest : List KeyOperation}
      (running : e.running = true) (busy : e.activity = .performing ticket (op :: rest)) :
      Work e ticket (.start op)
        { e with activity := .applying ticket op [] (e.injector.calls op) rest }
  | call {ticket : Nat} {op : KeyOperation} {made : List Attempt} {next : Call}
      {left : List Call} {rest : List KeyOperation}
      (applying : e.activity = .applying ticket op made (next :: left) rest) :
      Work e ticket (.call ⟨next, e.injector.reply e.accepted next⟩)
        (e.call ticket op made next left rest)
  | apply {ticket : Nat} {op : KeyOperation} {made : List Attempt} {rest : List KeyOperation}
      (running : e.running = true) (applied : e.activity = .applying ticket op made [] rest)
      (fine : faultOf made = none) :
      Work e ticket (.apply op made)
        { e with
          activity :=
            if op.delayAfter = 0 then .performing ticket rest
            else .pausing ticket op.delayAfter rest }
  | fail {ticket : Nat} {op : KeyOperation} {made : List Attempt} {rest : List KeyOperation}
      {fault : InjectionFault} (running : e.running = true)
      (applied : e.activity = .applying ticket op made [] rest)
      (faulty : faultOf made = some fault) :
      Work e ticket (.fail op made fault) (e.finish ticket (.error (.injection fault)))
  | sleep {ticket delay : Nat} {rest : List KeyOperation} (running : e.running = true)
      (pausing : e.activity = .pausing ticket delay rest) :
      Work e ticket (.sleep delay)
        { e with clock := e.clock + delay, activity := .performing ticket rest }
  | finish {ticket : Nat} (running : e.running = true)
      (done : e.activity = .performing ticket []) :
      Work e ticket .finish (e.finish ticket (.ok ()))

/-- Anything that can happen next. Waiting for a completion and dropping it do not reach the
worker. -/
inductive Step (e : Emulator) : Deed → Emulator → Prop
  | submit {e' : Emulator} {ops : List KeyOperation} {c : Completion}
      (sent : e.submit ops = .ok (e', c)) : Step e (.submit ops c) e'
  | refuse {ops : List KeyOperation} {error : Error} (refused : e.submit ops = .error error) :
      Step e (.refuse ops error) e
  | work {e' : Emulator} {ticket : Nat} {act : Act} (work : Work e ticket act e') :
      Step e (.work ticket act) e'
  | wait {c : Completion} {outcome : Except Error Unit} (settled : e.outcome? c = some outcome) :
      Step e (.wait c outcome) e
  | drop (c : Completion) : Step e (.drop c) e
  | shutdown : Step e .shutdown e.shutdown

inductive Steps (e : Emulator) : List Deed → Emulator → Prop
  | refl : Steps e [] e
  | snoc {h : List Deed} {d : Deed} {e' e'' : Emulator} (steps : Steps e h e')
      (step : Step e' d e'') : Steps e (h ++ [d]) e''

/-- What can have happened since the start of an emulator, and where that leads. -/
def Run (inj : Injector) (h : List Deed) (e : Emulator) : Prop :=
  Steps { injector := inj } h e

theorem Steps.trans {h' : List Deed} (first : Steps e h e') (second : Steps e' h' e'') :
    Steps e (h ++ h') e'' := by
  induction second with
  | refl => simpa using first
  | snoc _ step ih =>
    rw [← List.append_assoc]
    exact ih.snoc step

theorem Steps.exists_between {after : List Deed} (steps : Steps e (h ++ after) e'') :
    ∃ e', Steps e h e' ∧ Steps e' after e'' := by
  -- On what comes after, because a run grows at its end.
  induction after using List.reverseRecOn generalizing e'' with
  | nil =>
    rw [List.append_nil] at steps
    exact ⟨e'', steps, .refl⟩
  | append_singleton after d ih =>
    rw [← List.append_assoc] at steps
    generalize parts : h ++ after ++ [d] = all at steps
    cases steps with
    | refl => simp at parts
    | snoc earlier step =>
      obtain ⟨rfl, same⟩ := List.append_inj' parts rfl
      obtain rfl := List.head_eq_of_cons_eq same
      obtain ⟨e', first, second⟩ := ih earlier
      exact ⟨e', first, second.snoc step⟩

theorem Run.exists_step {before after : List Deed} {d : Deed}
    (run : Run inj (before ++ d :: after) e) :
    ∃ e₁ e₂, Run inj before e₁ ∧ Step e₁ d e₂ ∧ Steps e₂ after e := by
  rw [List.append_cons] at run
  obtain ⟨e₂, first, second⟩ := Steps.exists_between run
  generalize parts : before ++ [d] = all at first
  cases first with
  | refl => simp at parts
  | snoc earlier step =>
    obtain ⟨rfl, same⟩ := List.append_inj' parts rfl
    obtain rfl := List.head_eq_of_cons_eq same
    exact ⟨_, e₂, earlier, step, second⟩

theorem Run.step_of_mem {d : Deed} (run : Run inj h e) (member : d ∈ h) :
    ∃ h' before after, Run inj h' before ∧ Step before d after := by
  obtain ⟨before, after, rfl⟩ := List.append_of_mem member
  obtain ⟨e₁, e₂, earlier, step, _⟩ := run.exists_step
  exact ⟨before, e₁, e₂, earlier, step⟩

theorem exists_work_learn {op : KeyOperation} {made : List Attempt} {rest : List KeyOperation}
    (running : e.running = true) (applied : e.activity = .applying ticket op made [] rest) :
    ∃ act, Work e ticket act (e.learn ticket op made rest) := by
  unfold learn
  cases outcome : faultOf made with
  | none => exact ⟨_, .apply running applied outcome⟩
  | some fault => exact ⟨_, .fail running applied outcome⟩

theorem step?_eq_some_iff : e.step? = some e' ↔ ∃ ticket act, Work e ticket act e' := by
  constructor
  · intro stepped
    unfold step? at stepped
    split at stepped
    · rename_i applying
      cases stepped
      exact ⟨_, _, .call applying⟩
    · cases stepped
    · rename_i applied running
      cases stepped
      exact ⟨_, exists_work_learn running applied⟩
    · rename_i idle running
      split at stepped
      · cases stepped
      · rename_i queued
        cases stepped
        exact ⟨_, _, .take running idle queued⟩
    · rename_i done running
      cases stepped
      exact ⟨_, _, .finish running done⟩
    · rename_i busy running
      cases stepped
      exact ⟨_, _, .start running busy⟩
    · rename_i pausing running
      cases stepped
      exact ⟨_, _, .sleep running pausing⟩
  · intro h
    obtain ⟨ticket, act, work⟩ := h
    cases work with
    | take running idle queued => simp [step?, running, idle, queued]
    | start running busy => simp [step?, running, busy]
    | call applying => simp [step?, applying]
    | apply running applied fine => simp [step?, learn, running, applied, fine]
    | fail running applied faulty => simp [step?, learn, running, applied, faulty]
    | sleep running pausing => simp [step?, running, pausing]
    | finish running done => simp [step?, running, done]

theorem idle_of_step?_eq_none (running : e.running = true) (stopped : e.step? = none) :
    e.activity = .idle ∧ e.queue = [] := by
  cases activity : e.activity with
  | idle =>
    cases queue : e.queue with
    | nil => exact ⟨rfl, rfl⟩
    | cons s rest => simp [step?, running, activity, queue] at stopped
  | performing ticket rest => cases rest <;> simp [step?, running, activity] at stopped
  | applying ticket op made left rest => cases left <;> simp [step?, running, activity] at stopped
  | pausing ticket delay rest => simp [step?, running, activity] at stopped

theorem submit_eq_ok {ops : List KeyOperation} {c : Completion}
    (sent : e.submit ops = .ok (e', c)) :
    (ops = [] ∧ c = .ready ∧ e' = e) ∨
    (ops ≠ [] ∧ e.running = true ∧ c = .ticket e.nextTicket ∧
      e' = { e with
        queue := e.queue ++ [⟨e.nextTicket, ops⟩], nextTicket := e.nextTicket + 1 }) := by
  unfold submit at sent
  by_cases empty : ops = []
  · rw [if_pos (by simpa using empty)] at sent
    cases sent
    exact .inl ⟨empty, rfl, rfl⟩
  · rw [if_neg (by simpa using empty)] at sent
    split at sent
    · cases sent
    · rename_i running
      cases sent
      exact .inr ⟨empty, by simpa using running, rfl, rfl⟩

def made (e : Emulator) : List Attempt :=
  e.attempts.map (·.toAttempt)

theorem Work.frame (work : Work e ticket act e') :
    e'.injector = e.injector ∧ e'.nextTicket = e.nextTicket ∧ e'.running = e.running := by
  cases work <;> exact ⟨rfl, rfl, rfl⟩

theorem Work.made (work : Work e ticket act e') : e'.made = e.made ++ act.attempts := by
  cases work with
  | call => simp [Emulator.made, Emulator.call, Act.attempts]
  | take | start | apply | fail | sleep | finish =>
    simp [Emulator.made, Emulator.finish, Act.attempts]

theorem Step.injector {d : Deed} (step : Step e d e') : e'.injector = e.injector := by
  cases step with
  | submit sent =>
    rcases submit_eq_ok sent with ⟨_, _, rfl⟩ | ⟨_, _, _, rfl⟩ <;> rfl
  | work work => exact work.frame.1
  | refuse | wait | drop | shutdown => rfl

theorem Step.made {d : Deed} (step : Step e d e') : e'.made = e.made ++ d.attempts := by
  cases step with
  | submit sent =>
    rcases submit_eq_ok sent with ⟨_, _, rfl⟩ | ⟨_, _, _, rfl⟩ <;>
      simp [Emulator.made, Deed.attempts]
  | work work => exact work.made
  | refuse | wait | drop | shutdown => simp [Emulator.made, Deed.attempts, Emulator.shutdown]

theorem Run.injector (run : Run inj h e) : e.injector = inj := by
  induction run with
  | refl => rfl
  | snoc _ step ih => rw [step.injector, ih]

theorem Run.made (run : Run inj h e) : e.made = h.flatMap Deed.attempts := by
  induction run with
  | refl => rfl
  | snoc _ step ih => rw [step.made, ih, List.flatMap_append, List.flatMap_singleton]

theorem Run.gone_iff (run : Run inj h e) : e.running = false ↔ .shutdown ∈ h := by
  induction run with
  | refl => simp
  | snoc _ step ih =>
    rw [List.mem_append, List.mem_singleton]
    cases step with
    | submit sent =>
      rcases submit_eq_ok sent with ⟨_, _, rfl⟩ | ⟨_, _, _, rfl⟩ <;> simp [ih]
    | work work => simp [work.frame, ih]
    | refuse | wait | drop => simp [ih]
    | shutdown => simp [Emulator.shutdown]

theorem Run.running_iff (run : Run inj h e) : e.running = true ↔ .shutdown ∉ h := by
  rw [← run.gone_iff, Bool.not_eq_false]

theorem Work.workLeft_lt (work : Work e ticket act e') : e'.workLeft < e.workLeft := by
  cases work with
  | take running idle queued =>
    simp only [workLeft, idle, queued, workIn]
    omega
  | @start ticket op rest running busy =>
    have few := e.injector.length_calls_le op
    simp only [workLeft, busy, List.length_cons]
    omega
  | @call ticket op made next left rest applying =>
    simp only [workLeft, applying, Emulator.call, List.length_cons]
    split
    · omega
    · simp only [List.length_nil]
      omega
  | @apply ticket op made rest running applied fine =>
    by_cases undelayed : op.delayAfter = 0
    · simp only [workLeft, applied, undelayed, if_true, List.length_nil]
      omega
    · simp only [workLeft, applied, undelayed, if_false, List.length_nil]
      omega
  | fail running applied faulty =>
    simp only [workLeft, applied, Emulator.finish, List.length_nil]
    omega
  | sleep running pausing =>
    simp only [workLeft, pausing]
    omega
  | finish running done =>
    simp only [workLeft, done, Emulator.finish, List.length_nil]
    omega

def OnlyWork (h : List Deed) : Prop :=
  ∀ d ∈ h, ∃ ticket act, d = .work ticket act

theorem OnlyWork.filterMap_eq_nil {α : Type} {f : Deed → Option α} (works : OnlyWork h)
    (silent : ∀ ticket act, f (.work ticket act) = none) : h.filterMap f = [] := by
  apply List.filterMap_eq_nil_iff.mpr
  intro d member
  obtain ⟨ticket, act, rfl⟩ := works d member
  exact silent ticket act

theorem OnlyWork.shutdown_not_mem_append {before : List Deed} (works : OnlyWork h)
    (up : .shutdown ∉ before) : .shutdown ∉ before ++ h := by
  intro shut
  rcases List.mem_append.mp shut with earlier | later
  · exact up earlier
  · obtain ⟨_, _, same⟩ := works _ later
    cases same

theorem steps_stepsUntil (done : Emulator → Bool) {n : Nat} (enough : e.workLeft ≤ n) :
    ∃ h, OnlyWork h ∧ Steps e h (stepsUntil done n e) ∧
      (done (stepsUntil done n e) = true ∨ (stepsUntil done n e).step? = none) := by
  induction n generalizing e with
  | zero =>
    refine ⟨[], List.forall_mem_nil _, .refl, .inr ?_⟩
    cases next : e.step? with
    | none => exact next
    | some e' =>
      obtain ⟨_, _, work⟩ := step?_eq_some_iff.mp next
      have less := work.workLeft_lt
      omega
  | succ n ih =>
    unfold stepsUntil
    by_cases reached : done e = true
    · rw [if_pos reached]
      exact ⟨[], List.forall_mem_nil _, .refl, .inl reached⟩
    · rw [if_neg reached]
      cases next : e.step? with
      | none => exact ⟨[], List.forall_mem_nil _, .refl, .inr next⟩
      | some e' =>
        obtain ⟨ticket, act, work⟩ := step?_eq_some_iff.mp next
        have less := work.workLeft_lt
        obtain ⟨h, works, steps, stopped⟩ := ih (e := e') (by omega)
        have first : Steps e [.work ticket act] e' := Steps.refl.snoc (.work work)
        refine ⟨.work ticket act :: h, ?_, first.trans steps, stopped⟩
        intro d member
        rcases List.mem_cons.mp member with rfl | member
        · exact ⟨ticket, act, rfl⟩
        · exact works d member

theorem stepsUntil_keeps {P : Emulator → Prop}
    (kept : ∀ {e e' ticket act}, P e → Work e ticket act e' → P e')
    (done : Emulator → Bool) (n : Nat) (here : P e) : P (stepsUntil done n e) := by
  induction n generalizing e with
  | zero => exact here
  | succ n ih =>
    unfold stepsUntil
    split
    · exact here
    · split
      · rename_i next
        obtain ⟨_, _, work⟩ := step?_eq_some_iff.mp next
        exact ih (kept here work)
      · exact here

theorem step?_drain (e : Emulator) : e.drain.step? = none := by
  obtain ⟨_, _, _, stopped⟩ := steps_stepsUntil (fun _ => false) (Nat.le_refl e.workLeft)
  exact stopped.resolve_left Bool.false_ne_true

end Emulator

end Callout
