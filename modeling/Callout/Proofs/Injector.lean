import Callout.Injector.Basic
import Mathlib.Data.List.Basic

namespace Callout

def accepting (calls : List Call) : List Attempt :=
  calls.map fun c => ⟨c, .accepted⟩

theorem accepting_append (calls calls' : List Call) :
    accepting (calls ++ calls') = accepting calls ++ accepting calls' :=
  List.map_append

def InjectionFault.reply : InjectionFault → Reply
  | refused message => .refused message
  | crashed message => .crashed message

namespace Reply

variable {reply : Reply} {fault : InjectionFault}

theorem fault?_eq_none_iff : reply.fault? = none ↔ reply = .accepted := by
  cases reply <;> simp [fault?]

theorem fault?_eq_some_iff : reply.fault? = some fault ↔ reply = fault.reply := by
  cases reply <;> cases fault <;> simp [fault?, InjectionFault.reply]

theorem accepted_or_fault (reply : Reply) :
    reply = .accepted ∨ ∃ fault : InjectionFault, reply = fault.reply := by
  cases answer : reply.fault? with
  | none => exact .inl (fault?_eq_none_iff.mp answer)
  | some fault => exact .inr ⟨fault, fault?_eq_some_iff.mp answer⟩

end Reply

theorem InjectionFault.reply_ne_accepted (fault : InjectionFault) : fault.reply ≠ .accepted := by
  cases fault <;> exact nofun

theorem InjectionFault.reply_inj {fault other : InjectionFault} (same : fault.reply = other.reply) :
    fault = other := by
  cases fault <;> cases other <;> cases same <;> rfl

theorem acceptedCalls_append (a b : List Attempt) :
    acceptedCalls (a ++ b) = acceptedCalls a ++ acceptedCalls b := by
  simp [acceptedCalls]

theorem faultOf_append (a b : List Attempt) : faultOf (a ++ b) = (faultOf a).or (faultOf b) :=
  List.findSome?_append

theorem faultOf_accepting (calls : List Call) : faultOf (accepting calls) = none := by
  induction calls with
  | nil => rfl
  | cons call calls ih => exact ih

def failing (made : List Call) (call : Call) (fault : InjectionFault) : List Attempt :=
  accepting made ++ [⟨call, fault.reply⟩]

theorem faultOf_failing (made : List Call) (call : Call) (fault : InjectionFault) :
    faultOf (failing made call fault) = some fault := by
  rw [failing, faultOf_append, faultOf_accepting, Option.none_or]
  cases fault <;> rfl

/-- The calls for an operation, by whether a click is one call. -/
def KeyOperation.strokes (op : KeyOperation) (atOnce : Bool) : List Call :=
  match op.action, atOnce with
  | .press, _ => [.press op.key]
  | .pressAndRelease, true => [.click op.key]
  | .pressAndRelease, false => [.press op.key, .release op.key]

/-- How far some calls have come, with what is left of them: all went well up to here, or the latest
did not and was the last. -/
inductive Partway (calls : List Call) : List Attempt → List Call → Prop
  | fine {done left : List Call} (parts : calls = done ++ left) :
      Partway calls (accepting done) left
  | broken {done lost : List Call} {call : Call} {fault : InjectionFault}
      (parts : calls = done ++ call :: lost) :
      Partway calls (failing done call fault) []

namespace Partway

variable {calls left : List Call} {made : List Attempt} {next : Call} {fault : InjectionFault}

theorem start (calls : List Call) : Partway calls [] calls :=
  .fine (List.nil_append calls).symm

theorem parts_of_cons (partway : Partway calls made (next :: left)) :
    ∃ done, calls = done ++ next :: left ∧ made = accepting done := by
  cases partway with
  | fine parts => exact ⟨_, parts, rfl⟩

theorem answered (partway : Partway calls made (next :: left)) (reply : Reply) :
    Partway calls (made ++ [⟨next, reply⟩]) (if reply = .accepted then left else []) := by
  obtain ⟨done, parts, rfl⟩ := partway.parts_of_cons
  rcases reply.accepted_or_fault with rfl | ⟨fault, rfl⟩
  · have more : accepting done ++ [⟨next, .accepted⟩] = accepting (done ++ [next]) :=
      (accepting_append done [next]).symm
    rw [if_pos rfl, more]
    exact .fine (by simpa using parts)
  · rw [if_neg fault.reply_ne_accepted]
    exact .broken parts

theorem of_fine (partway : Partway calls made []) (fine : faultOf made = none) :
    made = accepting calls := by
  cases partway with
  | fine parts => rw [parts, List.append_nil]
  | broken =>
    rw [faultOf_failing] at fine
    cases fine

theorem of_fault (partway : Partway calls made left) (faulty : faultOf made = some fault) :
    ∃ done call lost, calls = done ++ call :: lost ∧ made = failing done call fault := by
  cases partway with
  | fine =>
    rw [faultOf_accepting] at faulty
    cases faulty
  | broken parts =>
    rw [faultOf_failing] at faulty
    obtain rfl := Option.some.inj faulty
    exact ⟨_, _, _, parts, rfl⟩

end Partway

namespace Injector

variable {inj : Injector} {accepted : List Call} {made : List Attempt}

theorem calls_eq (inj : Injector) (op : KeyOperation) :
    inj.calls op = op.strokes inj.clicksAtOnce := by
  unfold calls click KeyOperation.strokes
  cases op.action <;> cases inj.clicksAtOnce <;> rfl

theorem length_calls_le (inj : Injector) (op : KeyOperation) : (inj.calls op).length ≤ 2 := by
  rw [calls_eq]
  unfold KeyOperation.strokes
  cases op.action <;> cases inj.clicksAtOnce <;> simp

/-- The attempts at a sequence: at its operations in order, up to and including the first that
fails. -/
def block (inj : Injector) (accepted : List Call) : List KeyOperation → List Attempt
  | [] => []
  | op :: ops =>
    let attempts := inj.attempt accepted (inj.calls op)
    match faultOf attempts with
    | some _ => attempts
    | none => attempts ++ inj.block (accepted ++ acceptedCalls attempts) ops

def blocks (inj : Injector) (accepted : List Call) : List (List KeyOperation) → List (List Attempt)
  | [] => []
  | ops :: others =>
    let attempts := inj.block accepted ops
    attempts :: inj.blocks (accepted ++ acceptedCalls attempts) others

theorem blocks_append (inj : Injector) (accepted : List Call) (xs ys : List (List KeyOperation)) :
    inj.blocks accepted (xs ++ ys) = inj.blocks accepted xs ++
      inj.blocks (accepted ++ acceptedCalls (inj.blocks accepted xs).flatten) ys := by
  induction xs generalizing accepted with
  | nil => simp [blocks, acceptedCalls]
  | cons ops xs ih =>
    simp only [List.cons_append, blocks, ih, List.flatten_cons, acceptedCalls_append,
      List.append_assoc]

def resume (inj : Injector) (accepted : List Call) (made : List Attempt) (left : List Call)
    (rest : List KeyOperation) : List Attempt :=
  let more := inj.attempt accepted left
  match faultOf (made ++ more) with
  | some _ => more
  | none => more ++ inj.block (accepted ++ acceptedCalls more) rest

theorem block_cons (inj : Injector) (accepted : List Call) (op : KeyOperation)
    (ops : List KeyOperation) :
    inj.block accepted (op :: ops) = inj.resume accepted [] (inj.calls op) ops := by
  rw [block]
  rfl

theorem resume_cons (inj : Injector) (accepted : List Call) (made : List Attempt) (next : Call)
    (left : List Call) (rest : List KeyOperation) :
    let attempt : Attempt := ⟨next, inj.reply accepted next⟩
    inj.resume accepted made (next :: left) rest = attempt ::
      inj.resume (accepted ++ acceptedCalls [attempt]) (made ++ [attempt])
        (if attempt.reply = .accepted then left else []) rest := by
  simp only [resume, attempt]
  cases answer : inj.reply accepted next with
  | accepted =>
    simp only [if_true, List.append_assoc, List.singleton_append]
    have gained : acceptedCalls [⟨next, .accepted⟩] = [next] := rfl
    rw [gained, ← List.singleton_append, acceptedCalls_append, gained]
    cases faultOf (made ++ _) <;> simp
  | refused | crashed =>
    have faulty : ∃ fault, faultOf (made ++ [⟨next, inj.reply accepted next⟩]) = some fault := by
      rw [faultOf_append, answer]
      cases faultOf made <;> exact ⟨_, rfl⟩
    obtain ⟨fault, faulty⟩ := faulty
    rw [answer] at faulty
    simp [attempt, faulty]

theorem resume_of_fine (fine : faultOf made = none) (rest : List KeyOperation) :
    inj.resume accepted made [] rest = inj.block accepted rest := by
  simp [resume, attempt, fine, acceptedCalls]

theorem resume_of_fault {fault : InjectionFault} (faulty : faultOf made = some fault)
    (rest : List KeyOperation) : inj.resume accepted made [] rest = [] := by
  simp [resume, attempt, faulty]

/-- A backend that never fails. -/
def Obedient (inj : Injector) : Prop :=
  ∀ accepted call, inj.reply accepted call = .accepted

end Injector

end Callout
