import Callout.Proofs.Session.Run

namespace Callout

structure Processed where
  reading : Reading
  answer : Except Error (Option Completion)

namespace Processed

def dispatched? : Processed → Option SemanticResult
  | ⟨.order result, .ok (some _)⟩ => some result
  | _ => none

def refused? : Processed → Option SemanticResult
  | ⟨.order result, .error _⟩ => some result
  | _ => none

def dispatchedCommand? (p : Processed) : Option String :=
  p.dispatched?.bind (·.scalar? commandField)

def refusedCommand? (p : Processed) : Option String :=
  p.refused?.bind (·.scalar? commandField)

def command? (p : Processed) : Option String :=
  p.dispatchedCommand?.or p.refusedCommand?

end Processed

theorem Emulator.submit_eq_error_iff {e : Emulator} {ops : List KeyOperation} {error : Error} :
    e.submit ops = .error error ↔ error = .emulatorClosed ∧ e.running = false ∧ ops ≠ [] := by
  unfold submit
  cases ops with
  | nil => simp
  | cons op ops => cases e.running <;> simp [eq_comm]

namespace Session

def processed (s : Session) (e : RecognitionEvent) : Processed :=
  ⟨s.read e, (s.process e).2⟩

/-- How a session may get on, with a log of the events that it processes; between any two of them
anything may happen to its emulator. -/
inductive Proceeds (start : Session) : List Processed → Session → Prop
  | start : Proceeds start [] start
  | event {log s} (before : Proceeds start log s) (e : RecognitionEvent) :
    Proceeds start (log ++ [s.processed e]) (s.process e).1
  | emulator {log s deed} {e : Emulator} (before : Proceeds start log s)
    (step : Emulator.Step s.emulator deed e) :
    Proceeds start log { s with emulator := e }

variable {s start : Session} {e : RecognitionEvent} {result : SemanticResult} {error : Error}
  {log : List Processed}

def noting (s : Session) (result : SemanticResult) : Session :=
  { s with state.lastCommand := (result.scalar? commandField).or s.state.lastCommand }

theorem process_of_order (reading : s.read e = .order result)
    (listening : s.state.listening = true) :
    s.process e = match s.emulator.submit (s.registry.resolveResult result s.delay) with
      | .ok (emulator, c) => ({ s.noting result with emulator }, .ok (some c))
      | .error error => (s.noting result, .error error) := by
  simp only [process, reading, obey, listening, dispatch, noting]
  cases s.emulator.submit (s.registry.resolveResult result s.delay) <;> rfl

theorem exists_order_of_error (refused : (s.process e).2 = .error error) :
    s.state.listening = true ∧ ∃ result, s.read e = .order result := by
  unfold process at refused
  cases reading : s.read e with
  | rejection | listening => simp [reading] at refused
  | order result =>
    cases listening : s.state.listening with
    | false => simp [reading, obey, listening] at refused
    | true => exact ⟨rfl, result, rfl⟩

/-- An order is refused if and only if the worker is gone and there are keys to send. -/
theorem process_eq_error_iff :
    (s.process e).2 = .error error ↔
      error = .emulatorClosed ∧ s.emulator.running = false ∧ s.state.listening = true ∧
        ∃ result, s.read e = .order result ∧ s.registry.resolve result.order ≠ [] := by
  have snd_eq {result} (reading : s.read e = .order result) (listening : s.state.listening = true) :
      (s.process e).2 = .error error ↔ error = .emulatorClosed ∧ s.emulator.running = false ∧
        s.registry.resolve result.order ≠ [] := by
    have spaced : s.registry.resolveResult result s.delay = [] ↔
        s.registry.resolve result.order = [] :=
      List.map_eq_nil_iff
    rw [process_of_order reading listening, Ne, ← spaced, ← Ne, ← Emulator.submit_eq_error_iff]
    cases s.emulator.submit (s.registry.resolveResult result s.delay) <;> simp
  constructor
  · intro refused
    obtain ⟨listening, result, reading⟩ := exists_order_of_error refused
    obtain ⟨closed, gone, keys⟩ := (snd_eq reading listening).mp refused
    exact ⟨closed, gone, listening, result, reading, keys⟩
  · intro h
    obtain ⟨closed, gone, listening, result, reading, keys⟩ := h
    exact (snd_eq reading listening).mpr ⟨closed, gone, keys⟩

theorem process_of_error (refused : (s.process e).2 = .error error)
    (reading : s.read e = .order result) : (s.process e).1 = s.noting result := by
  have processed := process_of_order reading (exists_order_of_error refused).1
  rw [processed] at refused ⊢
  split at refused
  · cases refused
  · rfl

theorem noting_state_eq_iff :
    (s.noting result).state = s.state ↔
      ∀ id, result.scalar? commandField = some id → s.state.lastCommand = some id := by
  have same : (s.noting result).state = s.state ↔
      (result.scalar? commandField).or s.state.lastCommand = s.state.lastCommand := by
    unfold noting
    cases s.state
    simp
  rw [same]
  cases result.scalar? commandField with
  | none => simp
  | some id => simp [eq_comm]

theorem lastCommand_process (s : Session) (e : RecognitionEvent) :
    (s.process e).1.state.lastCommand = (s.processed e).command?.or s.state.lastCommand := by
  unfold processed
  cases reading : s.read e with
  | rejection | listening => simp only [process, reading]; rfl
  | order result =>
    cases listening : s.state.listening with
    | false => simp only [process, reading, obey, listening]; rfl
    | true =>
      rw [process_of_order reading listening]
      cases s.emulator.submit (s.registry.resolveResult result s.delay) with
      | error error => rfl
      | ok sent =>
        exact congrArg (Option.or · s.state.lastCommand) Option.or_none.symm

theorem Proceeds.lastCommand (proceeds : Proceeds start log s) :
    s.state.lastCommand =
      (log.filterMap Processed.command?).getLast?.or start.state.lastCommand := by
  induction proceeds with
  | start => rfl
  | @event log s _ e ih =>
    rw [lastCommand_process, ih, List.filterMap_append, List.getLast?_append, Option.or_assoc]
    cases command : (s.processed e).command? <;> simp [command]
  | emulator _ _ ih => exact ih

/-- An event fails if it is an order, the worker is gone and there are keys to send. It changes
nothing then but the last command, which is that of the latest order that was dispatched or refused;
it is that of the latest order that was dispatched if the refused ones name no command. -/
theorem proceeds_refused (proceeds : Proceeds start log s) :
    (∀ e error, (s.process e).2 = .error error ↔
      error = .emulatorClosed ∧ s.emulator.running = false ∧ s.state.listening = true ∧
        ∃ result, s.read e = .order result ∧ s.registry.resolve result.order ≠ []) ∧
    (∀ e error, (s.process e).2 = .error error →
      ∃ result, s.read e = .order result ∧ (s.process e).1 = s.noting result ∧
        ((s.process e).1.state = s.state ↔
          ∀ id, result.scalar? commandField = some id → s.state.lastCommand = some id)) ∧
    s.state.lastCommand =
      (log.filterMap Processed.command?).getLast?.or start.state.lastCommand ∧
    ((∀ p ∈ log, p.refusedCommand? = none) → s.state.lastCommand =
      (log.filterMap Processed.dispatchedCommand?).getLast?.or start.state.lastCommand) := by
  refine ⟨fun _ _ => process_eq_error_iff, ?_, proceeds.lastCommand, ?_⟩
  · intro e error refused
    obtain ⟨_, result, reading⟩ := exists_order_of_error refused
    have noted := process_of_error refused reading
    exact ⟨result, reading, noted, noted ▸ noting_state_eq_iff⟩
  · intro silent
    rw [proceeds.lastCommand]
    congr 2
    refine List.filterMap_congr fun p member => ?_
    rw [Processed.command?, silent p member, Option.or_none]

def watchOrder : SemanticResult :=
  .ofList [(commandField, .string "WATCH")]

def unitOrder : SemanticResult :=
  .ofList [(subjectField, .string "ONE")]

theorem order_watchOrder : watchOrder.order = ⟨none, some "WATCH", none⟩ := by
  decide +kernel

theorem order_unitOrder : unitOrder.order = ⟨some ["ONE"], none, none⟩ := by
  decide +kernel

theorem resolve_picket_watch : picket.registry.resolve watchOrder.order = Assembler.watch.keys := by
  rw [order_watchOrder]
  simp [Registry.resolve, commandKeys_picket]

theorem resolve_picket_unit : picket.registry.resolve unitOrder.order = [.tap .f1] := by
  rw [order_unitOrder]
  decide +kernel

def unattended : Session :=
  { picket with emulator := picket.emulator.shutdown }

/-- An order that is refused becomes the last command all the same. -/
theorem lastCommand_unattended :
    unattended.state.lastCommand = none ∧
      (unattended.process (.recognized watchOrder)).2 = .error .emulatorClosed ∧
      (unattended.process (.recognized watchOrder)).1.state.lastCommand = some "WATCH" ∧
      Proceeds unattended [⟨.order watchOrder, .error .emulatorClosed⟩]
        (unattended.process (.recognized watchOrder)).1 := by
  have refused : (unattended.process (.recognized watchOrder)).2 = .error .emulatorClosed := by
    refine process_eq_error_iff.mpr ⟨rfl, rfl, rfl, watchOrder, rfl, ?_⟩
    exact resolve_picket_watch.trans_ne nofun
  have noted := process_of_error refused rfl
  have proceeds := (@Proceeds.start unattended).event (.recognized watchOrder)
  rw [processed, refused] at proceeds
  refine ⟨rfl, refused, ?_, proceeds⟩
  rw [noted]
  exact congrArg (Option.or · none) (congrArg Order.command order_watchOrder)

def waiting (keys : List KeyOperation) : Emulator :=
  { picket.emulator with queue := [⟨0, keys⟩], nextTicket := 1 }

theorem submit_picket {keys : List KeyOperation} (given : keys ≠ []) :
    picket.emulator.submit keys = .ok (waiting keys, .ticket 0) :=
  if_neg (List.isEmpty_iff.not.mpr given)

def relieved : Session :=
  { picket.noting watchOrder with
    emulator := (waiting (picket.registry.resolveResult watchOrder picket.delay)).shutdown }

theorem proceeds_relieved :
    Proceeds picket [⟨.order watchOrder, .ok (some (.ticket 0))⟩] relieved := by
  have keys : picket.registry.resolveResult watchOrder picket.delay ≠ [] := by
    rw [Registry.resolveResult, resolve_picket_watch]
    exact nofun
  have told := process_of_order (s := picket) (e := .recognized watchOrder) rfl rfl
  rw [submit_picket keys] at told
  have proceeds := (@Proceeds.start picket).event (.recognized watchOrder)
  rw [processed, told] at proceeds
  exact proceeds.emulator .shutdown

theorem proceeds_refused_picket :
    ∃ s, Proceeds picket [⟨.order watchOrder, .ok (some (.ticket 0))⟩,
        ⟨.order unitOrder, .error .emulatorClosed⟩] s ∧ s.state.lastCommand = some "WATCH" := by
  have told := proceeds_relieved
  obtain ⟨refuses, _⟩ := proceeds_refused told
  have refused : (relieved.process (.recognized unitOrder)).2 = .error .emulatorClosed := by
    refine (refuses _ _).mpr ⟨rfl, rfl, rfl, unitOrder, rfl, ?_⟩
    exact resolve_picket_unit.trans_ne nofun
  have proceeds := told.event (.recognized unitOrder)
  rw [processed, refused] at proceeds
  obtain ⟨_, _, _, last⟩ := proceeds_refused proceeds
  have named : watchOrder.scalar? commandField = some "WATCH" :=
    congrArg Order.command order_watchOrder
  have unnamed : unitOrder.scalar? commandField = none :=
    congrArg Order.command order_unitOrder
  refine ⟨_, proceeds, (last ?_).trans ?_⟩
  · intro p member
    rcases List.mem_pair.mp member with rfl | rfl
    · rfl
    · exact unnamed
  · simp [Processed.dispatchedCommand?, Processed.dispatched?, named]

end Session

end Callout
