import Callout.Proofs.Emulator.Performance
import Callout.Session.Basic

namespace Callout

def heeded : Bool → List Reading → List SemanticResult
  | _, [] => []
  | on, .order result :: rest => if on then result :: heeded on rest else heeded on rest
  | on, .rejection _ :: rest => heeded on rest
  | _, .listening on :: rest => heeded on rest

namespace Session

variable {s : Session} {e : RecognitionEvent}

def sequencesFor (s : Session) (events : List RecognitionEvent) : List (List KeyOperation) :=
  (heeded s.state.listening (events.map s.read)).map fun r => s.registry.resolveResult r s.delay

def Follows (s' s : Session) (e : RecognitionEvent) (sent : List (List KeyOperation)) : Prop :=
  ∀ events, s.sequencesFor (e :: events) = sent ++ s'.sequencesFor events

theorem submit_of_running {emulator : Emulator} (running : emulator.running = true)
    (ops : List KeyOperation) : ∃ emulator' c, emulator.submit ops = .ok (emulator', c) := by
  unfold Emulator.submit
  by_cases empty : ops.isEmpty
  · exact ⟨_, _, if_pos empty⟩
  · simp only [empty, running, Bool.false_eq_true, Bool.not_true, if_false]
    exact ⟨_, _, rfl⟩

theorem process_cases (running : s.emulator.running = true) (e : RecognitionEvent) :
    (∃ ops c s', s.emulator.submit ops = .ok (s'.emulator, c) ∧
      s.process e = (s', .ok (some c)) ∧ s'.Follows s e [ops]) ∨
    ∃ s', s'.emulator = s.emulator ∧ s.process e = (s', .ok none) ∧ s'.Follows s e [] := by
  unfold process Follows sequencesFor
  cases reading : s.read e with
  | order result =>
    simp only [List.map_cons, reading, obey]
    by_cases listening : s.state.listening = true
    · left
      obtain ⟨emulator, c, sent⟩ :=
        submit_of_running running (s.registry.resolveResult result s.delay)
      refine ⟨_, c, { s with
        emulator
        state.lastCommand := (result.scalar? commandField).or s.state.lastCommand }, sent, ?_, ?_⟩
      · simp [listening, dispatch, sent, Except.map]
      · intro events
        simp only [listening, heeded, if_true, List.map_cons]
        rfl
    · right
      rw [Bool.not_eq_true] at listening
      refine ⟨s, rfl, ?_, ?_⟩
      · simp [listening]
      · intro events
        simp [listening, heeded]
  | rejection text =>
    right
    refine ⟨{ s with state.lastRejected := some text }, rfl, rfl, ?_⟩
    intro events
    rw [List.map_cons, reading]
    rfl
  | listening on =>
    right
    refine ⟨{ s with state.listening := on }, rfl, rfl, ?_⟩
    intro events
    rw [List.map_cons, reading]
    rfl

variable {s' : Session} {inj : Injector} {asked : List (List KeyOperation)}
  {rest rest' : List RecognitionEvent} {h : List Deed}

structure Pursuit (inj : Injector) (asked : List (List KeyOperation))
    (rest : List RecognitionEvent) (s : Session) (h : List Deed) : Prop where
  run : Emulator.Run inj h s.emulator
  up : .shutdown ∉ h
  sent : (submissions h).map (·.1) ++ s.sequencesFor rest = asked

namespace Pursuit

theorem submit {ops : List KeyOperation} {c : Completion} (p : Pursuit inj asked rest s h)
    (sent : s.emulator.submit ops = .ok (s'.emulator, c))
    (follows : s.sequencesFor rest = ops :: s'.sequencesFor rest') :
    Pursuit inj asked rest' s' (h ++ [.submit ops c]) where
  run := p.run.snoc (.submit sent)
  up := by simp [p.up]
  sent := by
    rw [submissions_append, submissions_submit, List.map_append, List.append_assoc, ← p.sent,
      follows]
    rfl

theorem idle (p : Pursuit inj asked rest s h) (same : s'.emulator = s.emulator)
    (follows : s.sequencesFor rest = s'.sequencesFor rest') : Pursuit inj asked rest' s' h where
  run := by
    rw [same]
    exact p.run
  up := p.up
  sent := by
    rw [← follows]
    exact p.sent

theorem work {ticket : Nat} {act : Act} {e : Emulator} (p : Pursuit inj asked rest s h)
    (work : Emulator.Work s.emulator ticket act e) :
    Pursuit inj asked rest { s with emulator := e } (h ++ [.work ticket act]) where
  run := p.run.snoc (.work work)
  up := by simp [p.up]
  sent := by
    rw [submissions_snoc_of_none h rfl]
    exact p.sent

theorem sequences_eq (p : Pursuit inj asked [] s h) : (submissions h).map (·.1) = asked := by
  have sent := p.sent
  rwa [sequencesFor, List.map_nil, heeded, List.map_nil, List.append_nil] at sent

end Pursuit

end Session

end Callout
