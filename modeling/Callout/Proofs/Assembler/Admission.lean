import Callout.Proofs.Agreement

namespace Callout

namespace Assembler

variable {a b : Assembler} {subject : Slot} {cs ds : List Command} {c : Command}

theorem addAll_accepted (a : Assembler) (cs : List Command) :
    a.addAll (a.accepted cs) = a.addAll cs := by
  induction cs generalizing a with
  | nil => rfl
  | cons c cs ih =>
    cases added : a.addCommand c with
    | ok b => simp only [accepted, addAll, added, ih b]
    | error e => simp only [accepted, addAll, added, ih a]

theorem accepted_accepted (a : Assembler) (cs : List Command) :
    a.accepted (a.accepted cs) = a.accepted cs := by
  induction cs generalizing a with
  | nil => rfl
  | cons c cs ih =>
    cases added : a.addCommand c with
    | ok b => simp only [accepted, added, ih b]
    | error e => simp only [accepted, added, ih a]

theorem Records.contains_iff (h : a.Records subject cs) (id : String) :
    a.registry.contains id = true ↔ id ∈ cs.map (·.id) := by
  rw [Registry.contains_eq_isSome, h.commands, Option.isSome_map]
  exact find?_isSome_iff

theorem addCommand_of_known (known : a.registry.contains c.id = true) :
    a.addCommand c = .error (.duplicateCommand c.id) :=
  if_pos known

theorem addCommand_of_taken {slot : Slot} (unknown : a.registry.contains c.id = false)
    (own : slot ∈ c.directObject) (taken : slot.name ∈ a.ruleIds) :
    a.addCommand c = .error (.duplicateRule slot.name) := by
  unfold addCommand
  rw [if_neg (by simp [unknown]), Option.mem_def.mp own]
  simp [Option.filter_some, taken]

theorem addCommand_of_free (unknown : a.registry.contains c.id = false)
    (free : ∀ slot ∈ c.directObject, slot.name ∉ a.ruleIds) :
    a.addCommand c = .ok (a.extended c) :=
  addCommand_eq_ok_iff.mpr ⟨unknown, free, rfl⟩

/-- The answers to a further command: its id counts first, then the name of its direct object. -/
structure Admits (a : Assembler) (subject : Slot) (cs : List Command) (c : Command) : Prop where
  duplicateCommand : ∀ id, a.addCommand c = .error (.duplicateCommand id) ↔
    id = c.id ∧ c.id ∈ cs.map (·.id)
  duplicateRule : ∀ name, a.addCommand c = .error (.duplicateRule name) ↔
    c.id ∉ cs.map (·.id) ∧ name ∈ takenNames subject cs ∧ ∃ slot ∈ c.directObject, slot.name = name
  accepted : (∃ b, a.addCommand c = .ok b) ↔
    c.id ∉ cs.map (·.id) ∧ ∀ slot ∈ c.directObject, slot.name ∉ takenNames subject cs

theorem Records.admits (h : a.Records subject cs) (c : Command) : a.Admits subject cs c := by
  have known := h.contains_iff c.id
  have names := h.ruleIds
  -- The cases are those of `addCommand`, which looks at the id before it looks at the name.
  by_cases old : c.id ∈ cs.map (·.id)
  · have refused := addCommand_of_known (known.mpr old)
    exact ⟨by simp [refused, old, eq_comm], by simp [refused, old], by simp [refused, old]⟩
  · have unknown : a.registry.contains c.id = false := by
      rw [← Bool.not_eq_true, known]
      exact old
    by_cases free : ∀ slot ∈ c.directObject, slot.name ∉ takenNames subject cs
    · have added := addCommand_of_free unknown (by rwa [names])
      refine ⟨by simp [added, old], ?_, by simpa [added, old] using free⟩
      intro name
      simp only [added, reduceCtorEq, false_iff, not_and, not_exists]
      intro _ taken slot own same
      exact free slot own (same ▸ taken)
    · push Not at free
      obtain ⟨slot, own, taken⟩ := free
      have refused := addCommand_of_taken unknown own (by rwa [names])
      refine ⟨by simp [refused, old], ?_, ?_⟩
      · intro name
        simp only [refused, Except.error.injEq, Error.duplicateRule.injEq]
        constructor
        · intro same
          exact ⟨old, same ▸ taken, slot, own, same⟩
        · intro h
          obtain ⟨_, _, other, own', same⟩ := h
          rw [Option.mem_unique own own', same]
      · simp only [refused, reduceCtorEq, exists_false, false_iff, not_and]
        intro _ free
        exact free slot own taken

theorem size_of_addCommand (added : a.addCommand c = .ok b) :
    b.registry.size = a.registry.size + 1 := by
  obtain ⟨unknown, _, rfl⟩ := addCommand_eq_ok_iff.mp added
  have absent : c.id ∉ a.registry.commands := by
    rw [← Std.HashMap.contains_iff_mem]
    simpa [Registry.contains] using unknown
  simp only [extended, Registry.size, Std.HashMap.size_insert, if_neg absent]

theorem size_addAll (a : Assembler) (cs : List Command) :
    (a.addAll cs).registry.size = a.registry.size + (a.accepted cs).length := by
  induction cs generalizing a with
  | nil => rfl
  | cons c cs ih =>
    unfold addAll accepted
    split
    · rename_i b added
      rw [ih, size_of_addCommand added, List.length_cons]
      omega
    · exact ih a

theorem size_of_new {culture : String} (start : Assembler.new culture subject = .ok a) :
    a.registry.size = 0 := by
  unfold Assembler.new at start
  split at start
  · cases start
  · obtain rfl := Except.ok.inj start
    exact Std.HashMap.size_empty

/-- Whatever commands come, a refused one leaves no trace: the grammar and the registry hold just
the accepted ones, in the order in which they came. -/
theorem build_addAll {culture : String} (start : Assembler.new culture subject = .ok a)
    (cs : List Command) :
    (∀ c, (a.addAll cs).Admits subject (a.accepted cs) c) ∧
    (a.accepted (a.accepted cs) = a.accepted cs ∧
      (a.addAll cs).build = (a.addAll (a.accepted cs)).build) ∧
    (a.addAll cs).build.1.rules =
      subject.rule :: (a.accepted cs).filterMap (fun c => c.directObject.map (·.rule)) ++
        [⟨rootRule, .shared,
          .oneOf (subject.reference.mention :: (a.accepted cs).map (·.alternative))⟩] ∧
    ((a.addAll cs).build.1.rules.map (·.id)).Nodup ∧
    (a.addAll cs).build.2.ids = (a.accepted cs).map (·.id) ∧
    (a.addAll cs).build.2.ids.Nodup ∧
    (∀ id, (a.addAll cs).build.2.get? id = (a.accepted cs).find? (·.id == id)) ∧
    (a.addAll cs).commandCount = (a.accepted cs).length ∧
    (a.addAll cs).build.2.size = (a.accepted cs).length := by
  have records : (a.addAll cs).Records subject (a.accepted cs) := (new_records start).addAll
  have size : (a.addAll cs).registry.size = (a.accepted cs).length := by
    rw [size_addAll, size_of_new start, Nat.zero_add]
  refine ⟨records.admits, ⟨accepted_accepted a cs, ?_⟩, ?_, records.rules_nodup, records.ids, ?_,
    records.get?_eq, size, size⟩
  · rw [addAll_accepted]
  · simp only [build, grammar, records.ownSubject, records.directObjects, records.alternatives]
  · rw [build, records.ids]
    exact records.idsNodup

def decoy : Command :=
  ⟨"DECOY", ["decoy"], [.tap .three], none, some (.directObject rootRule)⟩

theorem accepted_lookout : lookout.accepted [watch, watch, decoy] = [watch] := by
  have known : (lookout.extended watch).registry.contains watch.id = true :=
    Std.HashMap.contains_insert_self
  have unknown : (lookout.extended watch).registry.contains decoy.id = false := by
    simp [extended, lookout, Registry.contains, Registry.empty, watch, decoy]
  have second := addCommand_of_known known
  have third := addCommand_of_taken (c := decoy) unknown rfl List.mem_cons_self
  simp only [accepted, addCommand_lookout, second, third]

theorem build_addAll_lookout :
    Assembler.new "en-US" pair = .ok lookout ∧
    (lookout.addAll [watch, watch, decoy]).build.1.rules.map (·.id) =
      ["subject", "directionDO", "commands"] ∧
    (lookout.addAll [watch, watch, decoy]).build.2.ids = ["WATCH"] ∧
    (lookout.addAll [watch, watch, decoy]).commandCount = 1 := by
  have start : Assembler.new "en-US" pair = .ok lookout := by rfl
  obtain ⟨_, _, rules, _, ids, _, _, count, _⟩ := build_addAll start [watch, watch, decoy]
  rw [accepted_lookout] at rules ids count
  rw [rules, ids, count]
  exact ⟨start, by rfl, by rfl, by rfl⟩

end Assembler

end Callout
