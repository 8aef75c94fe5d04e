import Callout.Command
import Callout.Proofs.Slot

namespace Callout

structure Spoken where
  subjects : List Mention
  command : Option (Command × String)
  directObject : Option Mention

namespace Spoken

def words (s : Spoken) : List String :=
  s.subjects.flatMap (·.words) ++ ((s.command.map fun c => Text.words c.2).getD []
    ++ (s.directObject.map (·.words)).getD [])

def assigned (s : Spoken) : List (String × String) :=
  s.subjects.map (·.assigned subjectField) ++
    ((s.command.map fun c => (commandField, c.1.id)).toList
    ++ (s.directObject.map (·.assigned directObjectField)).toList)

def keys (s : Spoken) : List KeyOperation :=
  s.subjects.flatMap (·.entry.keys) ++ ((s.command.map (·.1.keys)).getD []
    ++ (s.directObject.map (·.entry.keys)).getD [])

def Names (s : Spoken) (subject : Slot) : Prop :=
  s.subjects.length ≤ subject.maxRepeat ∧ ∀ m ∈ s.subjects, subject.Mentions m

structure Orders (s : Spoken) (c : Command) : Prop where
  trigger : ∃ phrase ∈ c.phrases, s.command = some (c, phrase)
  addressed : s.subjects ≠ [] → c.subject.isSome
  own : ∀ m ∈ s.directObject, ∃ slot ∈ c.directObject, slot.Mentions m

/-- The utterances that some commands allow: subjects alone, or an order. -/
inductive Fits (s : Spoken) (subject : Slot) (commands : List Command) : Prop where
  | alone (names : s.Names subject) (named : s.subjects ≠ []) (uncommanded : s.command = none)
      (bare : s.directObject = none)
  | order (names : s.Names subject) {c : Command} (known : c ∈ commands) (orders : s.Orders c)

end Spoken

/-- A command with the subject of its assembler, if any, and a direct object, if any. -/
structure Command.Suits (c : Command) (subject : Slot) : Prop where
  subject : ∀ r ∈ c.subject, r = subject.reference
  directObject : ∀ slot ∈ c.directObject, slot.Built ∧ slot.kind = .directObject

namespace Grammar

variable {g : Grammar} {n : Nat} {ws : List String} {a : List (String × String)}
  {subject : Slot} {c : Command}

theorem derives_subject_part (suits : c.Suits subject) (limit : 1 ≤ subject.maxRepeat)
    (found : g.rule? subject.name = some subject.rule) :
    g.Derives (n + 1) (.sequence (c.subject.map (·.element)).toList) ws a ↔
      ∃ ms : List Mention, (ms ≠ [] → c.subject.isSome) ∧ ms.length ≤ subject.maxRepeat ∧
        (∀ m ∈ ms, subject.Mentions m) ∧ ws = ms.flatMap (·.words) ∧
        a = ms.map (·.assigned subject.kind.field) := by
  cases present : c.subject with
  | none =>
    rw [Option.map_none, Option.toList_none, derives_nil]
    constructor
    · intro h
      obtain ⟨rfl, rfl⟩ := h
      exact ⟨[], by simp, Nat.zero_le _, by simp, rfl, rfl⟩
    · intro h
      obtain ⟨ms, addressed, _, _, rfl, rfl⟩ := h
      have empty : ms = [] := by simpa using addressed
      subst empty
      exact ⟨rfl, rfl⟩
  | some r =>
    obtain rfl := suits.subject r present
    rw [Option.map_some, Option.toList_some, derives_singleton, derives_reference limit found]
    simp

theorem derives_trigger :
    g.Derives n (.sequence [.oneOf (c.phrases.map .phrase), .literalTag commandField c.id]) ws a ↔
      ∃ phrase ∈ c.phrases, ws = Text.words phrase ∧ a = [(commandField, c.id)] := by
  rw [derives_cons]
  constructor
  · intro h
    obtain ⟨vs, us, b, d, rfl, rfl, head, tail⟩ := h
    obtain ⟨phrase, member, rfl, rfl⟩ := derives_phrases.mp head
    obtain ⟨rfl, rfl⟩ := derives_literalTag.mp (derives_singleton.mp tail)
    exact ⟨phrase, member, by simp, rfl⟩
  · intro h
    obtain ⟨phrase, member, rfl, rfl⟩ := h
    refine ⟨Text.words phrase, [], [], _, by simp, rfl, ?_, ?_⟩
    · exact derives_phrases.mpr ⟨phrase, member, rfl, rfl⟩
    · exact derives_singleton.mpr (derives_literalTag.mpr ⟨rfl, rfl⟩)

theorem derives_directObject_part (suits : c.Suits subject)
    (found : ∀ slot ∈ c.directObject, g.rule? slot.name = some slot.rule) :
    g.Derives (n + 1) (.sequence (c.directObject.map (·.reference.element)).toList) ws a ↔
      ∃ o : Option Mention, (∀ m ∈ o, ∃ slot ∈ c.directObject, slot.Mentions m) ∧
        ws = (o.map (·.words)).getD [] ∧ a = (o.map (·.assigned directObjectField)).toList := by
  cases present : c.directObject with
  | none =>
    rw [Option.map_none, Option.toList_none, derives_nil]
    constructor
    · intro h
      obtain ⟨rfl, rfl⟩ := h
      exact ⟨none, by simp, rfl, rfl⟩
    · intro h
      obtain ⟨o, own, rfl, rfl⟩ := h
      cases o with
      | none => exact ⟨rfl, rfl⟩
      | some m => simpa using own m rfl
  | some slot =>
    obtain ⟨built, kind⟩ := suits.directObject slot present
    rw [Option.map_some, Option.toList_some, derives_singleton,
      derives_reference built.one_le_maxRepeat (found slot present),
      built.maxRepeat_of_directObject kind, kind]
    constructor
    · intro h
      obtain ⟨ms, bound, all, rfl, rfl⟩ := h
      match ms with
      | [] => exact ⟨none, by simp, rfl, rfl⟩
      | [m] => exact ⟨some m, by simpa using all, by simp, rfl⟩
      | _ :: _ :: _ => simp at bound
    · intro h
      obtain ⟨o, own, rfl, rfl⟩ := h
      cases o with
      | none => exact ⟨[], by simp, by simp, rfl, rfl⟩
      | some m => exact ⟨[m], by simp, by simpa using own, by simp, rfl⟩

theorem derives_command (suits : c.Suits subject) (limit : 1 ≤ subject.maxRepeat)
    (kind : subject.kind = .subject) (found : g.rule? subject.name = some subject.rule)
    (own : ∀ slot ∈ c.directObject, g.rule? slot.name = some slot.rule) :
    g.Derives (n + 1) c.alternative ws a ↔
      ∃ s : Spoken, s.Names subject ∧ s.Orders c ∧ ws = s.words ∧ a = s.assigned := by
  unfold Command.alternative
  rw [List.append_assoc, derives_append]
  constructor
  · intro h
    obtain ⟨vs, us, b, d, rfl, rfl, head, tail⟩ := h
    obtain ⟨ms, addressed, bound, all, rfl, rfl⟩ := (derives_subject_part suits limit found).mp head
    obtain ⟨vs, us, b, d, rfl, rfl, middle, last⟩ := derives_append.mp tail
    obtain ⟨phrase, trigger, rfl, rfl⟩ := derives_trigger.mp middle
    obtain ⟨o, belongs, rfl, rfl⟩ := (derives_directObject_part suits own).mp last
    refine ⟨⟨ms, some (c, phrase), o⟩, ⟨bound, all⟩, ?_, rfl, ?_⟩
    · exact ⟨⟨phrase, trigger, rfl⟩, addressed, belongs⟩
    · rw [kind]
      rfl
  · intro h
    obtain ⟨⟨ms, _, o⟩, ⟨bound, all⟩, ⟨⟨phrase, trigger, rfl⟩, addressed, belongs⟩, rfl, rfl⟩ := h
    refine ⟨_, _, _, _, rfl, rfl, ?_, ?_⟩
    · apply (derives_subject_part suits limit found).mpr
      exact ⟨ms, addressed, bound, all, rfl, by rw [kind]; rfl⟩
    · apply derives_append.mpr
      refine ⟨_, _, _, _, rfl, rfl, derives_trigger.mpr ⟨phrase, trigger, rfl, rfl⟩, ?_⟩
      exact (derives_directObject_part suits own).mpr ⟨o, belongs, rfl, rfl⟩

end Grammar

end Callout
