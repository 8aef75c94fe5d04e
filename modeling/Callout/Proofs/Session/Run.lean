import Callout.Injector.Recording
import Callout.Proofs.Agreement
import Callout.Proofs.Session

namespace Callout

namespace Reading

def switch? : Reading → Option Bool
  | listening on => some on
  | order _ | rejection _ => none

def rejection? : Reading → Option String
  | rejection text => some text
  | order _ | listening _ => none

end Reading

def settingAfter (on : Bool) (readings : List Reading) : Bool :=
  (readings.filterMap Reading.switch?).getLast?.getD on

def latestCommand? (on : Bool) (readings : List Reading) : Option String :=
  ((heeded on readings).filterMap (·.scalar? commandField)).getLast?

def latestRejection? (readings : List Reading) : Option String :=
  (readings.filterMap Reading.rejection?).getLast?

theorem settingAfter_cons (on : Bool) (reading : Reading) (readings : List Reading) :
    settingAfter on (reading :: readings) = settingAfter (reading.switch?.getD on) readings := by
  unfold settingAfter
  cases reading with
  | order | rejection => rfl
  | listening now =>
    simp only [Reading.switch?, List.filterMap_cons, List.getLast?_cons]
    rfl

theorem heeded_append (on : Bool) (readings later : List Reading) :
    heeded on (readings ++ later) =
      heeded on readings ++ heeded (settingAfter on readings) later := by
  induction readings generalizing on with
  | nil => rfl
  | cons reading readings ih =>
    rw [settingAfter_cons, List.cons_append]
    cases reading with
    | order result => cases on <;> simp [heeded, ih, Reading.switch?]
    | rejection | listening => exact ih _

namespace SessionState

def note (state : SessionState) : Reading → SessionState
  | .order result =>
    if state.listening then
      { state with lastCommand := (result.scalar? commandField).or state.lastCommand }
    else state
  | .rejection text => { state with lastRejected := some text }
  | .listening on => { state with listening := on }

theorem foldl_note (state : SessionState) (readings : List Reading) :
    readings.foldl note state =
      { listening := settingAfter state.listening readings
        lastCommand := (latestCommand? state.listening readings).or state.lastCommand
        lastRejected := (latestRejection? readings).or state.lastRejected } := by
  -- From the end, because the latest reading decides.
  induction readings using List.reverseRecOn with
  | nil => rfl
  | append_singleton readings reading ih =>
    rw [List.foldl_concat, ih]
    cases reading with
    | rejection | listening =>
      simp [note, settingAfter, latestCommand?, latestRejection?, heeded_append, heeded,
        Reading.switch?, Reading.rejection?]
    | order result =>
      have setting : settingAfter state.listening (readings ++ [.order result]) =
          settingAfter state.listening readings := by
        simp [settingAfter, Reading.switch?]
      rw [setting]
      cases on : settingAfter state.listening readings <;>
        cases command : result.scalar? commandField <;>
          simp [note, latestCommand?, latestRejection?, heeded_append, heeded, on, command,
            Reading.rejection?]

end SessionState

namespace Session

/-- How a session may get on with some events: it processes one after the other, and between any two
of them the worker makes a step. -/
inductive Processes (start : Session) : List RecognitionEvent → Session → Prop
  | start : Processes start [] start
  | event {events s} (before : Processes start events s) (e : RecognitionEvent) :
    Processes start (events ++ [e]) (s.process e).1
  | work {events s ticket act} {e : Emulator} (before : Processes start events s)
    (work : Emulator.Work s.emulator ticket act e) :
    Processes start events { s with emulator := e }

variable {s start : Session} {e : RecognitionEvent} {events rest : List RecognitionEvent}
  {inj : Injector} {asked : List (List KeyOperation)} {h : List Deed}

theorem state_process (s : Session) (e : RecognitionEvent) :
    (s.process e).1.state = s.state.note (s.read e) := by
  unfold process
  cases s.read e with
  | order result =>
    simp only [obey, dispatch, SessionState.note]
    cases listening : s.state.listening with
    | false => rfl
    | true =>
      cases s.emulator.submit (s.registry.resolveResult result s.delay) <;>
        simp [Except.map]
  | rejection | listening => rfl

theorem read_process (s : Session) (e : RecognitionEvent) : (s.process e).1.read = s.read := by
  have grammar : (s.process e).1.grammar = s.grammar := by
    unfold process
    cases s.read e with
    | order result =>
      simp only [obey, dispatch]
      cases s.state.listening with
      | false => rfl
      | true =>
        cases s.emulator.submit (s.registry.resolveResult result s.delay) <;> simp [Except.map]
    | rejection | listening => rfl
  funext e'
  cases e' <;> simp only [read, grammar]

theorem Pursuit.event (p : Pursuit inj asked (e :: rest) s h) :
    ∃ h', Pursuit inj asked rest (s.process e).1 h' := by
  have running := p.run.running_iff.mpr p.up
  rcases process_cases running e with ⟨ops, c, s', sent, processed, follows⟩ |
    ⟨s', same, processed, follows⟩
  · rw [processed]
    exact ⟨_, p.submit sent (follows rest)⟩
  · rw [processed]
    exact ⟨_, p.idle same (follows rest)⟩

theorem Processes.pursuit (processed : Processes start events s)
    (run : Emulator.Run inj h start.emulator) (up : .shutdown ∉ h)
    (rest : List RecognitionEvent) :
    ∃ h', Pursuit inj ((submissions h).map (·.1) ++ start.sequencesFor (events ++ rest)) rest s
      h' := by
  induction processed generalizing rest with
  | start => exact ⟨h, run, up, rfl⟩
  | event _ e ih =>
    obtain ⟨_, p⟩ := ih (e :: rest)
    rw [List.append_assoc]
    exact p.event
  | work _ work ih =>
    obtain ⟨_, p⟩ := ih rest
    exact ⟨_, p.work work⟩

theorem Processes.state (processed : Processes start events s) :
    s.read = start.read ∧
      s.state = (events.map start.read).foldl SessionState.note start.state := by
  induction processed with
  | start => exact ⟨rfl, rfl⟩
  | event _ e ih =>
    obtain ⟨read, state⟩ := ih
    rw [List.map_append, List.foldl_append, ← state, ← read]
    exact ⟨read_process _ e, state_process _ e⟩
  | work _ _ ih => exact ih

theorem Processes.drain (processed : Processes start events s) :
    Processes start events { s with emulator := s.emulator.drain } :=
  Emulator.stepsUntil_keeps (P := fun e => Processes start events { s with emulator := e })
    (fun before work => before.work work) _ _ processed

theorem Processes.foldl (processed : Processes start events s) (later : List RecognitionEvent) :
    Processes start (events ++ later) (later.foldl (fun s e => (s.process e).1) s) := by
  induction later generalizing s events with
  | nil => rwa [List.append_nil]
  | cons e later ih =>
    have next := ih (processed.event e)
    rwa [List.append_assoc] at next

/-- While the worker is there and nothing fails, a session sends the keys of the orders that come
while it listens, one order after the other and nothing else, whatever the worker had to do before;
and its state tells the latest setting, the latest rejection and the latest command that was heeded.
-/
theorem processes_performed (run : Emulator.Run inj h start.emulator) (up : .shutdown ∉ h)
    (obedient : inj.Obedient) (processed : Processes start events s) :
    (∀ e, ∃ c, (s.process e).2 = .ok c) ∧
    (s.emulator.step? = none → s.emulator.Performed inj
      ((submissions h).map (·.1) ++ (heeded start.state.listening (events.map start.read)).map
        fun r => (start.registry.resolve r.order).map fun op =>
          ⟨op.key, op.action, start.delay⟩)) ∧
    (Processes start events { s with emulator := s.emulator.drain } ∧
      s.emulator.drain.step? = none) ∧
    s.state.listening = settingAfter start.state.listening (events.map start.read) ∧
    s.state.lastRejected =
      (latestRejection? (events.map start.read)).or start.state.lastRejected ∧
    s.state.lastCommand =
      (latestCommand? start.state.listening (events.map start.read)).or
        start.state.lastCommand := by
  obtain ⟨h', p⟩ := processed.pursuit run up []
  have running := p.run.running_iff.mpr p.up
  have state := processed.state.2
  rw [SessionState.foldl_note] at state
  refine ⟨?_, ?_, ⟨processed.drain, s.emulator.step?_drain⟩, ?_, ?_, ?_⟩
  · intro e
    rcases process_cases running e with ⟨_, c, _, _, processed, _⟩ | ⟨_, _, processed, _⟩
    · exact ⟨some c, by rw [processed]⟩
    · exact ⟨none, by rw [processed]⟩
  · intro stopped
    have idle := Emulator.pending_eq_nil_iff.mpr (Emulator.idle_of_step?_eq_none running stopped)
    have performed := p.run.performed p.up obedient idle
    rw [p.sequences_eq, List.append_nil] at performed
    exact performed
  · rw [state]
  · rw [state]
  · rw [state]

def picket : Session where
  grammar := (Assembler.lookout.extended Assembler.watch).build.1
  registry := (Assembler.lookout.extended Assembler.watch).build.2
  delay := 40
  emulator := { injector := .stub }

def vigil : List RecognitionEvent :=
  [.utterance "Two, unit one!", .setListening false, .utterance "one", .utterance "sing",
    .setListening true, .recognized (.ofList [(commandField, .string "WATCH")]), .utterance "one"]

theorem commandKeys_picket : picket.registry.commandKeys? "WATCH" = some Assembler.watch.keys := by
  have start : Assembler.new "en-US" Assembler.pair = .ok Assembler.lookout := by rfl
  have records := (Assembler.new_records start).addCommand Assembler.addCommand_lookout
  exact records.commandKeys?_of_mem (c := Assembler.watch) (by simp)

theorem processes_performed_vigil :
    ∃ s, Processes picket vigil s ∧ s.emulator.step? = none ∧
      s.emulator.attempts.map (fun a => (a.call, a.time)) =
        [(.click .f2, 0), (.click .f1, 40), (.click .three, 80), (.click .eight, 120),
          (.click .f1, 160)] ∧
      s.emulator.clock = 200 ∧ s.state.listening = true ∧ s.state.lastRejected = some "sing" ∧
      s.state.lastCommand = some "WATCH" := by
  have obedient : Injector.stub.Obedient := fun _ _ => rfl
  have orders : (heeded picket.state.listening (vigil.map picket.read)).map (·.order) =
      [⟨some ["TWO", "ONE"], none, none⟩, ⟨none, some "WATCH", none⟩,
        ⟨some ["ONE"], none, none⟩] := by
    decide +kernel
  have watching : picket.registry.resolve ⟨none, some "WATCH", none⟩ = Assembler.watch.keys := by
    simp [Registry.resolve, commandKeys_picket]
  have asked : ((heeded picket.state.listening (vigil.map picket.read)).map fun r =>
      (picket.registry.resolve r.order).map fun op =>
        (⟨op.key, op.action, picket.delay⟩ : KeyOperation)) =
      [[⟨.f2, .pressAndRelease, 40⟩, ⟨.f1, .pressAndRelease, 40⟩],
        [⟨.three, .pressAndRelease, 40⟩, ⟨.eight, .pressAndRelease, 40⟩],
        [⟨.f1, .pressAndRelease, 40⟩]] := by
    have parts := List.map_map (f := SemanticResult.order)
      (g := fun o => (picket.registry.resolve o).map fun op =>
        (⟨op.key, op.action, picket.delay⟩ : KeyOperation))
      (l := heeded picket.state.listening (vigil.map picket.read))
    rw [orders, List.map_cons, List.map_cons, watching] at parts
    exact parts.symm
  have setting : settingAfter picket.state.listening (vigil.map picket.read) = true := by
    decide +kernel
  have refused : latestRejection? (vigil.map picket.read) = some "sing" := by decide +kernel
  have named : latestCommand? picket.state.listening (vigil.map picket.read) = some "WATCH" := by
    decide +kernel
  have fresh : Emulator.Run .stub [] picket.emulator := .refl
  obtain ⟨s, processed⟩ : ∃ s, Processes picket vigil s := ⟨_, Processes.start.foldl vigil⟩
  obtain ⟨_, _, ⟨drained, idle⟩, _⟩ := processes_performed fresh nofun obedient processed
  obtain ⟨_, performed, _, listening, rejected, command⟩ :=
    processes_performed fresh nofun obedient drained
  rw [asked] at performed
  rw [setting] at listening
  rw [refused] at rejected
  rw [named] at command
  obtain ⟨attempts, clock, _⟩ := performed idle
  refine ⟨_, drained, idle, ?_, clock, listening, rejected, command⟩
  rw [attempts]
  rfl

end Session

end Callout
