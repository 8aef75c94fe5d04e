import Callout.Cli.Listen
import Callout.Injector.Recording
import Callout.Proofs.Agreement
import Callout.Proofs.Session

namespace Callout.Cli

def event? (json : Bool) (line : String) : Option RecognitionEvent :=
  if (Text.trim line).isEmpty then none else eventOf? json (Text.trim line)

def eventsOf (json : Bool) (lines : List String) : List RecognitionEvent :=
  lines.filterMap (event? json)

namespace Listener

variable {json : Bool} {l : Listener} {line : String} {lines : List String}

theorem hear_of_no_event (quiet : event? json line = none) :
    (l.hear json line).session = l.session ∧ (l.hear json line).last = l.last := by
  unfold event? at quiet
  unfold hear
  split at quiet
  · rename_i blank
    simp [blank]
  · rename_i spoken
    simp [spoken, quiet]

theorem hear_of_event {e : RecognitionEvent} {s : Session} {c : Option Completion}
    (brings : event? json line = some e) (processed : l.session.process e = (s, .ok c)) :
    (l.hear json line).session = s ∧ (l.hear json line).last = c.or l.last := by
  unfold event? at brings
  unfold hear
  split at brings
  · cases brings
  · rename_i spoken
    simp only [spoken, brings, processed, Bool.false_eq_true, if_false]
    cases c <;> exact ⟨rfl, rfl⟩

theorem hear_cases (running : l.session.emulator.running = true) (json : Bool) (line : String) :
    (∃ ops c, l.session.emulator.submit ops = .ok ((l.hear json line).session.emulator, c) ∧
      (l.hear json line).last = some c ∧
      ∀ lines, l.session.sequencesFor (eventsOf json (line :: lines)) =
        ops :: (l.hear json line).session.sequencesFor (eventsOf json lines)) ∨
    (l.hear json line).session.emulator = l.session.emulator ∧
      (l.hear json line).last = l.last ∧
      ∀ lines, l.session.sequencesFor (eventsOf json (line :: lines)) =
        (l.hear json line).session.sequencesFor (eventsOf json lines) := by
  cases brings : event? json line with
  | none =>
    right
    obtain ⟨session, last⟩ := hear_of_no_event (l := l) brings
    refine ⟨by rw [session], last, ?_⟩
    intro lines
    rw [session, eventsOf, List.filterMap_cons_none brings]
    rfl
  | some e =>
    have events (lines : List String) : eventsOf json (line :: lines) = e :: eventsOf json lines :=
      List.filterMap_cons_some brings
    rcases Session.process_cases running e with ⟨ops, c, s, sent, processed, follows⟩ |
      ⟨s, same, processed, follows⟩
    · left
      obtain ⟨rfl, last⟩ := hear_of_event brings processed
      refine ⟨ops, c, sent, last, ?_⟩
      intro lines
      rw [events, follows]
      rfl
    · right
      obtain ⟨rfl, last⟩ := hear_of_event brings processed
      refine ⟨same, last, ?_⟩
      intro lines
      rw [events, follows]
      rfl

theorem hearAll_of_decode {texts : List (List UInt8)}
    (decoded : texts.map Text.decode = lines.map .ok) :
    l.hearAll json texts = (lines.foldl (hear json) l, none) := by
  induction texts generalizing l lines with
  | nil =>
    obtain rfl := List.map_eq_nil_iff.mp decoded.symm
    rfl
  | cons text texts ih =>
    obtain ⟨line, others, rfl, first, others'⟩ := List.map_eq_cons_iff.mp decoded.symm
    rw [hearAll, ← first, List.foldl_cons]
    exact ih others'.symm

end Listener

open Listener

/-- How the listening may go: the loop takes in line after line, and between any two of its moves
the worker makes a step. What is related is what is left of the lines and how things stand. -/
inductive Hears (json : Bool) (start : Listener) (lines : List String) :
    List String → Listener → Prop
  | start : Hears json start lines lines start
  | hear {line rest l} (before : Hears json start lines (line :: rest) l) :
    Hears json start lines rest (l.hear json line)
  | work {rest l ticket act e} (before : Hears json start lines rest l)
    (work : Emulator.Work l.session.emulator ticket act e) :
    Hears json start lines rest { l with session.emulator := e }

/-- How the emulator may stand when the listening is over: there is no further line, and the
sequence of the latest order is over. -/
inductive Returns (json : Bool) (start : Listener) (lines : List String) : Emulator → Prop
  | ended {l} (heard : Hears json start lines [] l)
    (settled : ∀ c ∈ l.last, (l.session.emulator.outcome? c).isSome) :
    Returns json start lines l.session.emulator

structure Progress (inj : Injector) (asked : List (List KeyOperation))
    (rest : List RecognitionEvent) (l : Listener) (h : List Deed) : Prop where
  run : Emulator.Run inj h l.session.emulator
  up : .shutdown ∉ h
  sent : (submissions h).map (·.1) ++ l.session.sequencesFor rest = asked
  latest : l.last = (submissions h).getLast?.map (·.2)

variable {json : Bool} {inj : Injector} {asked : List (List KeyOperation)} {s : Session}
  {l start : Listener} {h : List Deed} {lines rest : List String} {line : String}
  {events : List RecognitionEvent}

namespace Progress

theorem pursuit (p : Progress inj asked events l h) :
    Session.Pursuit inj asked events l.session h :=
  ⟨p.run, p.up, p.sent⟩

theorem hear (p : Progress inj asked (eventsOf json (line :: rest)) l h) :
    ∃ h', Progress inj asked (eventsOf json rest) (l.hear json line) h' := by
  have running := p.run.running_iff.mpr p.up
  rcases Listener.hear_cases running json line with ⟨ops, c, sent, last, follows⟩ |
    ⟨same, last, follows⟩
  · have next := p.pursuit.submit sent (follows rest)
    refine ⟨_, next.run, next.up, next.sent, ?_⟩
    rw [submissions_append, submissions_submit, List.getLast?_concat, last]
    rfl
  · have next := p.pursuit.idle same (follows rest)
    refine ⟨_, next.run, next.up, next.sent, ?_⟩
    rw [last]
    exact p.latest

theorem work {ticket : Nat} {act : Act} {e : Emulator} (p : Progress inj asked events l h)
    (work : Emulator.Work l.session.emulator ticket act e) :
    Progress inj asked events { l with session.emulator := e } (h ++ [.work ticket act]) := by
  have next := p.pursuit.work work
  refine ⟨next.run, next.up, next.sent, ?_⟩
  rw [submissions_snoc_of_none h rfl]
  exact p.latest

end Progress

theorem Hears.progress (heard : Hears json { session := s } lines rest l)
    (fresh : s.emulator = { injector := inj }) :
    ∃ h, Progress inj (s.sequencesFor (eventsOf json lines)) (eventsOf json rest) l h := by
  induction heard with
  | start =>
    refine ⟨[], ?_, nofun, rfl, rfl⟩
    rw [fresh]
    exact .refl
  | hear _ ih =>
    obtain ⟨_, p⟩ := ih
    exact p.hear
  | work _ work ih =>
    obtain ⟨_, p⟩ := ih
    exact ⟨_, p.work work⟩

theorem Progress.sequences_eq (p : Progress inj asked [] l h) :
    (submissions h).map (·.1) = asked :=
  p.pursuit.sequences_eq

theorem Progress.submitted_of_last {c : Completion} (p : Progress inj asked events l h)
    (latest : l.last = some c) :
    ∃ ops, (submissions h).getLast? = some (ops, c) ∧ .submit ops c ∈ h := by
  obtain ⟨⟨ops, c⟩, last, rfl⟩ := Option.map_eq_some_iff.mp (p.latest.symm.trans latest)
  exact ⟨ops, last, mem_submissions.mp (List.mem_of_getLast? last)⟩

theorem Progress.performed (p : Progress inj asked [] l h) (obedient : inj.Obedient)
    (settled : ∀ c ∈ l.last, (l.session.emulator.outcome? c).isSome)
    (last : asked.getLast? = some [] → asked.flatten = []) :
    l.session.emulator.Performed inj asked := by
  obtain rfl := p.sequences_eq
  refine p.run.performed p.up obedient ?_
  by_cases empty : ((submissions h).map (·.1)).flatten = []
  · rw [← flatten_sequences] at empty
    exact p.run.pending_of_flatten p.up empty
  · rcases List.eq_nil_or_concat' (submissions h) with none | ⟨others, ⟨ops, c⟩, parts⟩
    · simp [none] at empty
    -- The latest sequence has the highest ticket, and tickets come to an end in their order.
    · have latest : (submissions h).getLast? = some (ops, c) := by
        rw [parts, List.getLast?_concat]
      rcases p.run.submitted (mem_submissions.mp (List.mem_of_getLast? latest)) with
        ⟨rfl, _⟩ | ⟨_, ticket, rfl⟩
      · exact absurd (last (by simp [latest])) empty
      · refine p.run.pending_of_latest p.up (p.run.nextTicket_of_latest latest) (settled _ ?_)
        simp [p.latest, latest]

namespace Hears

theorem foldl (heard : Hears json start lines rest l) :
    Hears json start lines [] (rest.foldl (Listener.hear json) l) := by
  induction rest generalizing l with
  | nil => exact heard
  | cons line rest ih =>
    rw [List.foldl_cons]
    exact ih heard.hear

theorem stepsUntil (heard : Hears json start lines rest l) (done : Emulator → Bool) (n : Nat) :
    Hears json start lines rest
      { l with session.emulator := l.session.emulator.stepsUntil done n } :=
  Emulator.stepsUntil_keeps
    (P := fun e => Hears json start lines rest { l with session.emulator := e })
    (fun before work => before.work work) done n heard

theorem finish (heard : Hears json { session := s } lines [] l)
    (fresh : s.emulator = { injector := inj }) :
    Returns json { session := s } lines l.finish.session.emulator := by
  have heard' : Hears json { session := s } lines [] l.finish :=
    (heard.stepsUntil Emulator.isPausing _).stepsUntil _ _
  obtain ⟨_, _, _, stopped⟩ :=
    Emulator.steps_stepsUntil (fun e => l.last.toList.all (e.outcome? · |>.isSome))
      (Nat.le_refl l.session.emulator.settle.workLeft)
  refine .ended heard' ?_
  intro c latest
  -- The worker was stopped because the sequence was over, or has nothing left to do.
  rcases stopped with ended | stopped
  · exact List.all_eq_true.mp ended c (Option.mem_toList.mpr latest)
  · obtain ⟨h, p⟩ := heard'.progress fresh
    obtain ⟨ops, _, submitted⟩ := p.submitted_of_last latest
    obtain ⟨outcome, told⟩ := p.run.exists_outcome submitted stopped
    exact Option.isSome_iff_exists.mpr ⟨outcome, told⟩

end Hears

theorem hearAll_returns {texts : List (List UInt8)} (fresh : s.emulator = { injector := inj })
    (decoded : texts.map Text.decode = lines.map .ok) :
    ∃ l, ({ session := s } : Listener).hearAll json texts = (l, none) ∧
      Returns json { session := s } lines l.finish.session.emulator :=
  ⟨_, Listener.hearAll_of_decode decoded, Hears.start.foldl.finish fresh⟩

namespace Listener

theorem made_foldl_hear (running : l.session.emulator.running = true) (json : Bool)
    (lines : List String) :
    (lines.foldl (hear json) l).session.emulator.made = l.session.emulator.made := by
  induction lines generalizing l with
  | nil => rfl
  | cons line lines ih =>
    have frame : (l.hear json line).session.emulator.made = l.session.emulator.made ∧
        (l.hear json line).session.emulator.running = true := by
      rcases hear_cases running json line with ⟨ops, c, sent, _⟩ | ⟨same, _⟩
      · rcases Emulator.submit_eq_ok sent with ⟨_, _, same⟩ | ⟨_, _, _, same⟩
        · rw [same]
          exact ⟨rfl, running⟩
        · rw [same]
          exact ⟨rfl, running⟩
      · rw [same]
        exact ⟨rfl, running⟩
    rw [List.foldl_cons, ih frame.2, frame.1]

end Listener

/-- After an order that sends no keys there is nothing to wait for, so the listening may be over
before the worker has done anything. -/
theorem exists_returns_unmade (json : Bool) (lines : List String)
    (fresh : s.emulator = { injector := inj })
    (last : (s.sequencesFor (eventsOf json lines)).getLast? = some []) :
    ∃ e, Returns json { session := s } lines e ∧ e.made = [] := by
  have heard : Hears json { session := s } lines [] _ := Hears.start.foldl
  refine ⟨_, .ended heard ?_, ?_⟩
  · intro c latest
    obtain ⟨h, p⟩ := heard.progress fresh
    obtain ⟨ops, latest, submitted⟩ := p.submitted_of_last latest
    rw [← p.sequences_eq, List.getLast?_map, latest] at last
    obtain rfl := Option.some.inj last
    rcases p.run.submitted submitted with ⟨_, rfl⟩ | ⟨filled, _⟩
    · rfl
    · exact absurd rfl filled
  · rw [Listener.made_foldl_hear (by simp [fresh])]
    simp [fresh, Emulator.made]

/-- Waiting for the sequence of the latest order means waiting for all of them, whichever way the
listening goes, except if that sequence is empty and one before it is not. In any case the
listening comes to an end. -/
theorem returns_performed (json : Bool) (lines : List String)
    (fresh : s.emulator = { injector := inj }) (obedient : inj.Obedient) :
    ((∀ e, Returns json { session := s } lines e →
        e.Performed inj (s.sequencesFor (eventsOf json lines))) ↔
      ((s.sequencesFor (eventsOf json lines)).getLast? = some [] →
        (s.sequencesFor (eventsOf json lines)).flatten = [])) ∧
    ∀ rest l, Hears json { session := s } lines rest l →
      Returns json { session := s } lines
        (rest.foldl (Listener.hear json) l).finish.session.emulator := by
  refine ⟨⟨?_, ?_⟩, fun rest l heard => heard.foldl.finish fresh⟩
  · intro performed last
    obtain ⟨e, returned, unmade⟩ := exists_returns_unmade json lines fresh last
    exact (performed e returned).flatten_eq_nil unmade
  · intro last e returned
    obtain ⟨heard, settled⟩ := returned
    obtain ⟨h, p⟩ := heard.progress fresh
    exact p.performed obedient settled last

def sentry : Session where
  grammar := (Assembler.lookout.extended Assembler.watch).build.1
  registry := (Assembler.lookout.extended Assembler.watch).build.2
  delay := 1000
  emulator := { injector := .stub }

theorem stub_obedient : Injector.stub.Obedient :=
  fun _ _ => rfl

def chatter : List String :=
  ["one", "/mute", "two", "/listen", " ", "three", "Two, unit one!"]

theorem returns_performed_chatter :
    (∃ e, Returns false { session := sentry } chatter e) ∧
    ∀ e, Returns false { session := sentry } chatter e →
      e.Performed .stub
        [[⟨.f1, .pressAndRelease, 1000⟩],
          [⟨.f2, .pressAndRelease, 1000⟩, ⟨.f1, .pressAndRelease, 1000⟩]] := by
  have asked : sentry.sequencesFor (eventsOf false chatter) =
      [[⟨.f1, .pressAndRelease, 1000⟩],
        [⟨.f2, .pressAndRelease, 1000⟩, ⟨.f1, .pressAndRelease, 1000⟩]] := by
    decide +kernel
  obtain ⟨performed, ends⟩ := returns_performed (s := sentry) false chatter rfl stub_obedient
  rw [asked] at performed
  exact ⟨⟨_, ends _ _ .start⟩, performed.mpr nofun⟩

def lull : List String :=
  ["\x7b\"subject\":\"ONE\"\x7d", "\x7b\x7d"]

theorem returns_unperformed_lull :
    ∃ e, Returns true { session := sentry } lull e ∧
      ¬ e.Performed .stub (sentry.sequencesFor (eventsOf true lull)) := by
  have asked : sentry.sequencesFor (eventsOf true lull) =
      [[⟨.f1, .pressAndRelease, 1000⟩], []] := by
    decide +kernel
  have last : (sentry.sequencesFor (eventsOf true lull)).getLast? = some [] := by
    rw [asked]
    rfl
  obtain ⟨e, returned, unmade⟩ := exists_returns_unmade (s := sentry) true lull rfl last
  refine ⟨e, returned, ?_⟩
  intro performed
  have unasked := performed.flatten_eq_nil unmade
  rw [asked] at unasked
  cases unasked

end Callout.Cli
