import Callout.Proofs.Emulator.Run

namespace Callout

def Deed.sequence? : Deed → Option (List KeyOperation)
  | submit ops _ => if ops = [] then none else some ops
  | refuse _ _ | work _ _ | wait _ _ | drop _ | shutdown => none

/-- The sequences of a run that are not empty, in the order of their submission. -/
def sequences (h : List Deed) : List (List KeyOperation) :=
  h.filterMap Deed.sequence?

theorem sequences_append (h h' : List Deed) : sequences (h ++ h') = sequences h ++ sequences h' :=
  List.filterMap_append

theorem sequences_snoc_of_none {d : Deed} (h : List Deed) (quiet : d.sequence? = none) :
    sequences (h ++ [d]) = sequences h := by
  simp [sequences, quiet]

/-- An attempt to click a key: in one call, or as a press that is followed by the release unless it
fails. -/
inductive Clicking (key : Key) : List Attempt → Prop
  | atOnce (reply : Reply) : Clicking key [⟨.click key, reply⟩]
  | unpressed (fault : InjectionFault) : Clicking key [⟨.press key, fault.reply⟩]
  | pressed (reply : Reply) : Clicking key [⟨.press key, .accepted⟩, ⟨.release key, reply⟩]

namespace Act

def operation? : Act → Option KeyOperation
  | apply op _ | fail op _ _ => some op
  | take | start _ | call _ | sleep _ | finish => none

def told : Act → List Attempt
  | apply _ attempts | fail _ attempts _ => attempts
  | take | start _ | call _ | sleep _ | finish => []

/-- An operation is carried out by all of its calls, and fails at one of them. -/
def Faithful (inj : Injector) : Act → Prop
  | apply op attempts => attempts = accepting (op.strokes inj.clicksAtOnce)
  | fail op attempts fault =>
    ∃ made call rest, op.strokes inj.clicksAtOnce = made ++ call :: rest ∧
      attempts = failing made call fault
  | take | start _ | call _ | sleep _ | finish => True

theorem Faithful.clicking {inj : Injector} {act : Act} {op : KeyOperation}
    (faithful : act.Faithful inj) (tried : act.operation? = some op)
    (click : op.action = .pressAndRelease) : Clicking op.key act.told := by
  have calls : op.strokes inj.clicksAtOnce = [.click op.key] ∨
      op.strokes inj.clicksAtOnce = [.press op.key, .release op.key] := by
    unfold KeyOperation.strokes
    rw [click]
    cases inj.clicksAtOnce <;> simp
  cases act with
  | apply other attempts =>
    obtain rfl := Option.some.inj tried
    obtain rfl := faithful
    rcases calls with calls | calls <;> rw [calls]
    · exact .atOnce .accepted
    · exact .pressed .accepted
  | fail other attempts fault =>
    obtain rfl := Option.some.inj tried
    obtain ⟨made, call, rest, parts, rfl⟩ := faithful
    rcases calls with calls | calls <;> rw [calls] at parts
    · cases made with
      | nil =>
        cases parts
        exact .atOnce fault.reply
      | cons first made => simp at parts
    · cases made with
      | nil =>
        cases parts
        exact .unpressed fault
      | cons first made =>
        cases made with
        | nil =>
          cases parts
          exact .pressed fault.reply
        | cons second made => simp at parts
  | take | start | call | sleep | finish => cases tried

end Act

namespace Emulator

variable {inj : Injector} {e e' : Emulator} {h : List Deed} {ticket : Nat} {act : Act}

def Underway (e : Emulator) : Prop :=
  ∀ ticket op made left rest, e.activity = .applying ticket op made left rest →
    Partway (op.strokes e.injector.clicksAtOnce) made left ∧ made <:+ e.made

theorem Work.underway (work : Work e ticket act e') (underway : e.Underway) : e'.Underway := by
  intro ticket' op' made' left' rest' activity
  cases work with
  | take | sleep | fail | finish => cases activity
  | apply =>
    simp only at activity
    split at activity <;> cases activity
  | start =>
    cases activity
    rw [Injector.calls_eq]
    exact ⟨.start _, List.nil_suffix⟩
  | call applying =>
    obtain ⟨partway, latest⟩ := underway _ _ _ _ _ applying
    cases activity
    refine ⟨partway.answered _, ?_⟩
    obtain ⟨earlier, parts⟩ := latest
    refine ⟨earlier, ?_⟩
    simp [Emulator.made, Emulator.call, ← List.append_assoc, parts]

theorem Run.underway (run : Run inj h e) : e.Underway := by
  induction run with
  | refl => exact nofun
  | snoc _ step ih =>
    cases step with
    | submit sent => rcases submit_eq_ok sent with ⟨_, _, rfl⟩ | ⟨_, _, _, rfl⟩ <;> exact ih
    | work work => exact work.underway ih
    | refuse | wait | drop | shutdown => exact ih

theorem Run.partway {op : KeyOperation} {made : List Attempt} {left : List Call}
    {rest : List KeyOperation} (run : Run inj h e)
    (applying : e.activity = .applying ticket op made left rest) :
    Partway (op.strokes inj.clicksAtOnce) made left ∧ made <:+ e.made := by
  rw [← run.injector]
  exact run.underway _ _ _ _ _ applying

def ahead (e : Emulator) : List Attempt :=
  match e.activity with
  | .idle => []
  | .performing _ rest | .pausing _ _ rest => e.injector.block e.accepted rest
  | .applying _ _ made left rest => e.injector.resume e.accepted made left rest

def coming (e : Emulator) : List Attempt :=
  e.ahead ++ (e.injector.blocks (e.accepted ++ acceptedCalls e.ahead)
    (e.queue.map (·.operations))).flatten

/-- All calls made in the end if everything is left alone. -/
def expected (e : Emulator) : List Attempt :=
  e.made ++ e.coming

theorem Work.accepted (work : Work e ticket act e') :
    e'.accepted = e.accepted ++ acceptedCalls act.attempts := by
  have made := congrArg acceptedCalls work.made
  rwa [acceptedCalls_append] at made

theorem Work.ahead (work : Work e ticket act e') :
    (act = .take ∧ ∃ s, e.activity = .idle ∧ e.queue = s :: e'.queue ∧
      e'.activity = .performing ticket s.operations) ∨
    (e.ahead = act.attempts ++ e'.ahead ∧ e'.queue = e.queue) := by
  have accepted := work.accepted
  cases work with
  | @take s queue running idle queued => exact .inl ⟨rfl, s, idle, queued, rfl⟩
  | start running busy =>
    right
    simp [Emulator.ahead, busy, Injector.block_cons, Act.attempts, Emulator.accepted]
  | call applying =>
    right
    simp only [Emulator.ahead, applying, Injector.resume_cons, accepted]
    exact ⟨rfl, rfl⟩
  | @apply ticket op made rest running applied fine =>
    right
    by_cases undelayed : op.delayAfter = 0 <;>
      simp [Emulator.ahead, applied, undelayed, Injector.resume_of_fine fine, Act.attempts,
        Emulator.accepted]
  | fail running applied faulty =>
    right
    simp [Emulator.ahead, applied, Injector.resume_of_fault faulty, Act.attempts,
      Emulator.finish]
  | sleep running pausing =>
    right
    simp [Emulator.ahead, pausing, Act.attempts, Emulator.accepted]
  | finish running done =>
    right
    simp [Emulator.ahead, done, Act.attempts, Emulator.finish, Injector.block]

theorem Work.expected (work : Work e ticket act e') : e'.expected = e.expected := by
  have accepted := work.accepted
  unfold Emulator.expected
  rw [work.made, List.append_assoc]
  congr 1
  rcases work.ahead with ⟨rfl, s, idle, queued, activity⟩ | ⟨ahead, queue⟩
  · have quiet : e'.accepted = e.accepted := accepted.trans (List.append_nil _)
    simp [coming, Emulator.ahead, idle, activity, queued, quiet, work.frame, Injector.blocks,
      acceptedCalls, Act.attempts]
  · simp only [coming, ahead, accepted, queue, work.frame, acceptedCalls_append,
      List.append_assoc]

theorem expected_of_submit {ops : List KeyOperation} {c : Completion}
    (sent : e.submit ops = .ok (e', c)) :
    e'.expected = e.expected ++
      (e.injector.blocks (acceptedCalls e.expected) (sequences [.submit ops c])).flatten := by
  rcases submit_eq_ok sent with ⟨rfl, _, rfl⟩ | ⟨filled, _, _, same⟩
  · simp [sequences, Deed.sequence?, Injector.blocks]
  · have queued : sequences [.submit ops c] = [ops] := by
      simp [sequences, Deed.sequence?, filled]
    have before : acceptedCalls e.expected = e.accepted ++ acceptedCalls e.ahead ++
        acceptedCalls (e.injector.blocks (e.accepted ++ acceptedCalls e.ahead)
          (e.queue.map (·.operations))).flatten := by
      rw [expected, coming, acceptedCalls_append, acceptedCalls_append, ← List.append_assoc]
      rfl
    have longer : e'.expected = e.made ++ (e.ahead ++
        (e.injector.blocks (e.accepted ++ acceptedCalls e.ahead)
          (e.queue.map (·.operations) ++ [ops])).flatten) := by
      rw [same, expected, coming, List.map_append]
      rfl
    rw [longer, Injector.blocks_append, List.flatten_append, before, queued, expected, coming]
    simp only [List.append_assoc]

theorem Run.expected (run : Run inj h e) (running : e.running = true) :
    e.expected = (inj.blocks [] (sequences h)).flatten := by
  induction run with
  | refl => rfl
  | @snoc h d e e' steps step ih =>
    cases step with
    | submit sent =>
      have before : e.running = true := by
        rcases submit_eq_ok sent with ⟨_, _, rfl⟩ | ⟨_, before, _⟩
        · exact running
        · exact before
      rw [sequences_append, expected_of_submit sent, ih before, Run.injector steps,
        Injector.blocks_append, List.flatten_append, List.nil_append]
    | work work =>
      rw [work.frame.2.2] at running
      rw [work.expected, ih running, sequences_snoc_of_none h rfl]
    | refuse | wait | drop => rw [ih running, sequences_snoc_of_none h rfl]
    | shutdown => cases running

theorem expected_shutdown_prefix (e : Emulator) : e.shutdown.expected <+: e.expected := by
  have cut : e.shutdown.expected = e.made ++ (e.ahead ++ []) := rfl
  rw [cut, List.append_nil, Emulator.expected, coming, ← List.append_assoc]
  exact List.prefix_append _ _

theorem Run.expected_prefix (run : Run inj h e) :
    e.expected <+: (inj.blocks [] (sequences h)).flatten := by
  induction run with
  | refl => exact List.prefix_rfl
  | @snoc h d e e' steps step ih =>
    cases step with
    | submit sent =>
      cases running : e'.running with
      | true =>
        have whole := Run.expected (Steps.snoc steps (.submit sent)) running
        exact whole ▸ List.prefix_rfl
      | false =>
        rcases submit_eq_ok sent with ⟨rfl, rfl, rfl⟩ | ⟨_, before, _, rfl⟩
        · rwa [sequences_snoc_of_none h rfl]
        · rw [before] at running
          cases running
    | work work =>
      rw [work.expected, sequences_snoc_of_none h rfl]
      exact ih
    | refuse | wait | drop => rwa [sequences_snoc_of_none h rfl]
    | shutdown =>
      rw [sequences_snoc_of_none h rfl]
      exact e.expected_shutdown_prefix.trans ih

theorem Run.made_prefix (run : Run inj h e) :
    e.made <+: (inj.blocks [] (sequences h)).flatten :=
  (List.prefix_append _ _).trans run.expected_prefix

theorem made_eq_expected_of_step? (running : e.running = true) (stopped : e.step? = none) :
    e.made = e.expected := by
  obtain ⟨idle, empty⟩ := idle_of_step?_eq_none running stopped
  simp [Emulator.expected, coming, ahead, idle, empty, Injector.blocks]

theorem Work.faithful (work : Work e ticket act e') (underway : e.Underway) :
    act.Faithful e.injector ∧ act.told <:+ e.made := by
  cases work with
  | apply _ applied fine =>
    obtain ⟨partway, latest⟩ := underway _ _ _ _ _ applied
    exact ⟨partway.of_fine fine, latest⟩
  | fail _ applied faulty =>
    obtain ⟨partway, latest⟩ := underway _ _ _ _ _ applied
    exact ⟨partway.of_fault faulty, latest⟩
  | take | start | call | sleep | finish => exact ⟨trivial, List.nil_suffix⟩

theorem Run.faithful {before after : List Deed}
    (run : Run inj (before ++ .work ticket act :: after) e) :
    act.Faithful inj ∧ act.told <:+ before.flatMap Deed.attempts := by
  obtain ⟨_, _, earlier, step, _⟩ := run.exists_step
  cases step with
  | work work =>
    rw [← earlier.injector, ← earlier.made]
    exact work.faithful earlier.underway

theorem Run.made_drain (run : Run inj h e) (up : .shutdown ∉ h) :
    e.drain.made = (inj.blocks [] (sequences h)).flatten := by
  obtain ⟨h', works, steps, stopped⟩ := steps_stepsUntil (fun _ => false) (Nat.le_refl e.workLeft)
  have after : Run inj (h ++ h') e.drain := run.trans steps
  have quiet : sequences h' = [] := works.filterMap_eq_nil fun _ _ => rfl
  have running : e.drain.running = true :=
    after.running_iff.mpr (works.shutdown_not_mem_append up)
  have nothing : e.drain.step? = none := stopped.resolve_left Bool.false_ne_true
  rw [made_eq_expected_of_step? running nothing, after.expected running,
    sequences_append, quiet, List.append_nil]

/-- However a run goes, its calls are those of one sequence after the other, in the order they were
submitted: at any time the first of them, and in the end all of them. -/
theorem attempts_serial (run : Run inj h e) :
    e.made = h.flatMap Deed.attempts ∧
    e.made <+: (inj.blocks [] (sequences h)).flatten ∧
    (.shutdown ∉ h → e.drain.made = (inj.blocks [] (sequences h)).flatten ∧
      (e.step? = none → e.made = (inj.blocks [] (sequences h)).flatten)) ∧
    ∀ before ticket act after, h = before ++ .work ticket act :: after →
      act.Faithful inj ∧ act.told <:+ before.flatMap Deed.attempts ∧
      ∀ op ∈ act.operation?, op.action = .pressAndRelease → Clicking op.key act.told := by
  refine ⟨run.made, run.made_prefix, ?_, ?_⟩
  · intro up
    refine ⟨run.made_drain up, ?_⟩
    intro stopped
    have running := run.running_iff.mpr up
    rw [made_eq_expected_of_step? running stopped, run.expected running]
  · rintro before ticket act after rfl
    obtain ⟨faithful, latest⟩ := run.faithful
    exact ⟨faithful, latest, fun op tried click => faithful.clicking tried click⟩

def jammed : Injector where
  name := "Jammed"
  clicksAtOnce := false
  reply _ call := if call = .release .one then .crashed "stuck" else .accepted

theorem attempts_serial_jammed :
    ∃ h e, Run jammed h e ∧ sequences h = [[.tap .one, .tap .two], [.tap .three]] ∧
      e.drain.made = [⟨.press .one, .accepted⟩, ⟨.release .one, .crashed "stuck"⟩,
        ⟨.press .three, .accepted⟩, ⟨.release .three, .accepted⟩] := by
  have first : Run jammed [.submit [.tap .one, .tap .two] (.ticket 0)] _ :=
    Steps.refl.snoc (.submit rfl)
  have run : Run jammed [.submit [.tap .one, .tap .two] (.ticket 0), .drop (.ticket 0),
      .submit [.tap .three] (.ticket 1)] _ :=
    (first.snoc (.drop (.ticket 0))).snoc (.submit rfl)
  obtain ⟨_, _, drained, _⟩ := attempts_serial run
  exact ⟨_, _, run, rfl, (drained (by simp)).1⟩

end Emulator

end Callout
