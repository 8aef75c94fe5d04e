import Callout.Proofs.Agreement
import Callout.Proofs.Grammar.Reference

namespace Callout

theorem SlotKind.field_ne_command (k : SlotKind) : k.field ≠ commandField := by
  cases k <;> decide

theorem valuesOf_eq_nil {field other : String} {entries : List (String × String)}
    (written : ∀ entry ∈ entries, entry.1 = other) (apart : other ≠ field) :
    valuesOf field entries = [] := by
  unfold valuesOf
  rw [List.map_eq_nil_iff, List.filter_eq_nil_iff]
  intro entry member
  simpa [written entry member] using apart

namespace Grammar

variable {g : Grammar} {n : Nat} {ws : List String} {entries : List (String × String)}
  {s subject : Slot} {c : Command}

theorem field_of_derives_slot (derived : g.Derives n s.rule.body ws entries) :
    ∀ entry ∈ entries, entry.1 = s.kind.field := by
  have named (ms : List Mention) :
      ∀ entry ∈ ms.map (·.assigned s.kind.field), entry.1 = s.kind.field := by
    intro entry member
    obtain ⟨m, _, rfl⟩ := List.mem_map.mp member
    rfl
  unfold Slot.rule at derived
  by_cases several : 1 < s.maxRepeat
  · simp only [several, if_true] at derived
    obtain ⟨count, _, _, derived⟩ := derives_repetition.mp derived
    obtain ⟨ms, _, _, _, rfl⟩ := derives_choices.mp derived
    exact named ms
  · simp only [several, if_false] at derived
    obtain ⟨m, _, _, rfl⟩ := derives_choice.mp derived
    exact named [m]

theorem command_of_derives_mention (found : g.rule? s.name = some s.rule)
    (derived : g.Derives (n + 1) s.reference.mention ws entries) :
    valuesOf commandField entries = [] :=
  valuesOf_eq_nil (field_of_derives_slot ((derives_mention found).mp derived))
    s.kind.field_ne_command

theorem command_of_derives_element (found : g.rule? s.name = some s.rule)
    (derived : g.Derives (n + 1) s.reference.element ws entries) :
    valuesOf commandField entries = [] := by
  rcases derives_optional.mp derived with ⟨_, rfl⟩ | derived
  · rfl
  · exact command_of_derives_mention found derived

theorem command_of_derives_alternative (own : ∀ r ∈ c.subject, r = subject.reference)
    (found : g.rule? subject.name = some subject.rule)
    (found' : ∀ slot ∈ c.directObject, g.rule? slot.name = some slot.rule)
    (derived : g.Derives (n + 1) c.alternative ws entries) :
    valuesOf commandField entries = [c.id] := by
  unfold Command.alternative at derived
  rw [List.append_assoc] at derived
  obtain ⟨_, _, before, _, _, rfl, head, tail⟩ := derives_append.mp derived
  obtain ⟨_, _, _, after, _, rfl, middle, last⟩ := derives_append.mp tail
  obtain ⟨_, _, _, rfl⟩ := derives_trigger.mp middle
  have subjects : valuesOf commandField before = [] := by
    cases present : c.subject with
    | none =>
      rw [present, Option.map_none, Option.toList_none] at head
      rw [(derives_nil.mp head).2]
      rfl
    | some r =>
      obtain rfl := own r present
      rw [present, Option.map_some, Option.toList_some] at head
      exact command_of_derives_element found (derives_singleton.mp head)
  have directObjects : valuesOf commandField after = [] := by
    cases present : c.directObject with
    | none =>
      rw [present, Option.map_none, Option.toList_none] at last
      rw [(derives_nil.mp last).2]
      rfl
    | some slot =>
      rw [present, Option.map_some, Option.toList_some] at last
      exact command_of_derives_element (found' slot present) (derives_singleton.mp last)
  rw [valuesOf_append, valuesOf_append, subjects, directObjects]
  simp [valuesOf]

end Grammar

namespace Assembler

variable {a b : Assembler} {subject : Slot} {cs ds : List Command} {c : Command}

def Mentionable (subject : Slot) (cs : List Command) (id : String) : Prop :=
  id = subject.name ∨ ∃ c ∈ cs, ∃ slot ∈ c.directObject, slot.name = id

theorem Records.mentionable {e : Element} {id : String} (h : a.Records subject cs)
    (own : ∀ c ∈ cs, ∀ r ∈ c.subject, r = subject.reference) (alternative : e ∈ a.alternatives)
    (referenced : id ∈ e.referencedRules) : Mentionable subject cs id := by
  rw [h.alternatives] at alternative
  rcases List.mem_cons.mp alternative with rfl | listed
  · exact .inl (List.mem_singleton.mp referenced)
  · obtain ⟨c, member, rfl⟩ := List.mem_map.mp listed
    rcases Command.mem_referencedRules_alternative.mp referenced with
      ⟨r, present, rfl⟩ | ⟨slot, present, rfl⟩
    · rw [own c member r present]
      exact .inl rfl
    · exact .inr ⟨c, member, slot, present, rfl⟩

theorem Records.refPaths_eq (h : a.Records subject cs) (h' : b.Records subject ds)
    (more : cs ⊆ ds) (n : Nat) {id : String} (known : Mentionable subject cs id) :
    a.grammar.refPaths n id = b.grammar.refPaths n id := by
  have slots : ∀ id, Mentionable subject cs id →
      ∃ slot : Slot, a.grammar.rule? id = some slot.rule ∧ b.grammar.rule? id = some slot.rule := by
    intro id known
    rcases known with rfl | ⟨c, member, slot, own, rfl⟩
    · exact ⟨subject, h.rule?_subject, h'.rule?_subject⟩
    · exact ⟨slot, h.rule?_directObject member own, h'.rule?_directObject (more member) own⟩
  refine Grammar.refPaths_congr ?_ ?_ n known
  · intro id known rule found other referenced
    obtain ⟨slot, here, _⟩ := slots id known
    obtain rfl := Option.some.inj (found.symm.trans here)
    rw [slot.referencedRules_rule] at referenced
    cases referenced
  · intro id known
    obtain ⟨slot, here, there⟩ := slots id known
    rw [here, there]

/-- The alternatives so far match as they did, whatever else is added. -/
theorem Records.pathsOfAny_eq (h : a.Records subject cs) (h' : b.Records subject ds)
    (more : cs ⊆ ds) (own : ∀ c ∈ cs, ∀ r ∈ c.subject, r = subject.reference) (n : Nat) :
    Element.pathsOfAny (a.grammar.refPaths n) a.alternatives =
      Element.pathsOfAny (b.grammar.refPaths n) a.alternatives := by
  apply Element.pathsOfAny_congr
  intro e alternative
  apply Element.paths_congr
  intro id referenced
  exact h.refPaths_eq h' more n (h.mentionable own alternative referenced)

theorem Records.assignments?_eq {ws : List String} (h : a.Records subject cs) (spoken : ws ≠ []) :
    a.grammar.assignments? ws =
      ((Element.pathsOfAny (a.grammar.refPaths Grammar.maxNesting) a.alternatives
        ⟨ws, []⟩).find? (·.rest.isEmpty)).map (·.assigned) := by
  obtain ⟨w, ws, rfl⟩ := List.exists_cons_of_ne_nil spoken
  simp only [Grammar.assignments?, h.rootRule?, Element.paths]

theorem Records.assignments?_addCommand {ws : List String} (h : a.Records subject cs)
    (own : ∀ c ∈ cs, ∀ r ∈ c.subject, r = subject.reference) (added : a.addCommand c = .ok b)
    (spoken : ws ≠ []) :
    b.grammar.assignments? ws = (a.grammar.assignments? ws).or
      (((c.alternative.paths (b.grammar.refPaths Grammar.maxNesting) ⟨ws, []⟩).find?
        (·.rest.isEmpty)).map (·.assigned)) := by
  have h' := h.addCommand added
  have alternatives : b.alternatives = a.alternatives ++ [c.alternative] := by
    rw [h'.alternatives, h.alternatives, List.map_append]
    rfl
  have last : Element.pathsOfAny (b.grammar.refPaths Grammar.maxNesting) [c.alternative]
      ⟨ws, []⟩ = c.alternative.paths (b.grammar.refPaths Grammar.maxNesting) ⟨ws, []⟩ :=
    List.append_nil _
  rw [h'.assignments?_eq spoken, h.assignments?_eq spoken, alternatives,
    Element.pathsOfAny_append, List.find?_append, Option.map_or, last,
    h.pathsOfAny_eq h' (List.subset_append_left cs [c]) own]

theorem Records.command_of_spells {ws : List String} {entries : List (String × String)}
    (h : a.Records subject cs) (own : ∀ c ∈ cs, ∀ r ∈ c.subject, r = subject.reference)
    (spelled : a.grammar.Spells ws entries) :
    valuesOf commandField entries = [] ∨ ∃ c ∈ cs, valuesOf commandField entries = [c.id] := by
  obtain ⟨root, found, derived⟩ := spelled
  rw [h.rootRule?] at found
  obtain rfl := Option.some.inj found
  obtain ⟨e, alternative, derived⟩ := Grammar.derives_oneOf.mp derived
  rw [h.alternatives] at alternative
  rcases List.mem_cons.mp alternative with rfl | listed
  · exact .inl (Grammar.command_of_derives_mention h.rule?_subject derived)
  · obtain ⟨c, member, rfl⟩ := List.mem_map.mp listed
    exact .inr ⟨c, member, Grammar.command_of_derives_alternative (own c member) h.rule?_subject
      (fun slot => h.rule?_directObject member) derived⟩

theorem resolve_of_addCommand {o : Order} (added : a.addCommand c = .ok b)
    (other : c.id ∉ o.command) : b.registry.resolve o = a.registry.resolve o := by
  obtain ⟨_, _, rfl⟩ := addCommand_eq_ok_iff.mp added
  apply Registry.resolve_congr
  · rfl
  · intro id named
    have apart : c.id ≠ id := fun same => other (same ▸ named)
    simp only [extended, Std.HashMap.getElem?_insert, beq_eq_false_iff_ne.mpr apart,
      Bool.false_eq_true, if_false]

variable {utterance : String} {r : SemanticResult}

theorem Records.interpret_of_understood (h : a.Records subject cs)
    (own : ∀ c ∈ cs, ∀ r ∈ c.subject, r = subject.reference) (added : a.addCommand c = .ok b)
    (understood : a.grammar.interpret utterance = some r) :
    b.grammar.interpret utterance = some r := by
  obtain ⟨entries, found, rfl⟩ := Grammar.assignments?_of_interpret understood
  obtain ⟨spoken, _⟩ := Grammar.spells_of_assignments? found
  rw [Grammar.interpret, h.assignments?_addCommand own added spoken, found]
  rfl

theorem Records.resolve_of_understood (h : a.Records subject cs)
    (own : ∀ c ∈ cs, ∀ r ∈ c.subject, r = subject.reference) (plain : ∀ c ∈ cs, IsFragment c.id)
    (added : a.addCommand c = .ok b) (understood : a.grammar.interpret utterance = some r) :
    b.registry.resolve r.order = a.registry.resolve r.order := by
  obtain ⟨entries, found, rfl⟩ := Grammar.assignments?_of_interpret understood
  obtain ⟨_, spelled⟩ := Grammar.spells_of_assignments? found
  -- The keys are looked up by id, and the new id is none of those that can be named here.
  have fresh := h.fresh (addCommand_eq_ok_iff.mp added).1
  apply resolve_of_addCommand added
  rcases h.command_of_spells own spelled with empty | ⟨d, known, one⟩
  · have order : (SemanticResult.ofAssignments entries).order.command = none := by
      rw [SemanticResult.order, SemanticResult.scalar?_ofAssignments (by simp [empty]), empty]
      rfl
    simp [order]
  · have fragment : ∀ value ∈ valuesOf commandField entries, IsFragment value := by
      rw [one]
      simpa using plain d known
    have order : (SemanticResult.ofAssignments entries).order.command = some d.id := by
      rw [SemanticResult.order, SemanticResult.scalar?_ofAssignments fragment, one]
      rfl
    have apart : d.id ≠ c.id := fun same => fresh (same ▸ List.mem_map_of_mem known)
    simpa [order] using apart

theorem Records.command_of_newly_understood (h : a.Records subject cs)
    (own : ∀ d ∈ cs ++ [c], ∀ r ∈ d.subject, r = subject.reference)
    (added : a.addCommand c = .ok b) (before : a.grammar.interpret utterance = none)
    (after : b.grammar.interpret utterance = some r) :
    r.get? commandField = some (.string c.id) := by
  have h' := h.addCommand added
  have old : ∀ d ∈ cs, ∀ r ∈ d.subject, r = subject.reference :=
    fun d known => own d (List.mem_append_left [c] known)
  have last : c ∈ cs ++ [c] := List.mem_append_right cs (List.mem_singleton_self c)
  have nothing : a.grammar.assignments? (Text.words utterance) = none :=
    Option.map_eq_none_iff.mp before
  obtain ⟨entries, found, rfl⟩ := Grammar.assignments?_of_interpret after
  obtain ⟨spoken, _⟩ := Grammar.spells_of_assignments? found
  -- No earlier alternative matches all words, so the first path that does is one of the new one.
  rw [h.assignments?_addCommand old added spoken, nothing, Option.none_or] at found
  obtain ⟨q, first, rfl⟩ := Option.map_eq_some_iff.mp found
  obtain ⟨ws, entries, _, assigned, derived⟩ :=
    Grammar.paths_sound b.grammar Grammar.maxNesting c.alternative _ q
      (List.mem_of_find?_eq_some first)
  have command := Grammar.command_of_derives_alternative (own c last) h'.rule?_subject
    (fun slot => h'.rule?_directObject last) derived
  rw [SemanticResult.get?_ofAssignments, assigned, List.nil_append, command]
  rfl

/-- A further command leaves alone what was understood and which keys that sends, and whatever is
understood only with it is an order for it. -/
theorem interpret_addCommand {culture : String} (start : Assembler.new culture subject = .ok a)
    (added : (a.addAll cs).addCommand c = .ok b)
    (own : ∀ d ∈ a.accepted cs ++ [c], ∀ r ∈ d.subject, r = a.subjectRef) (utterance : String) :
    (∀ r, (a.addAll cs).build.1.interpret utterance = some r →
      b.build.1.interpret utterance = some r ∧
      ((∀ d ∈ a.accepted cs ++ [c], IsFragment d.id) →
        b.build.2.resolve r.order = (a.addAll cs).build.2.resolve r.order)) ∧
    ∀ r, (a.addAll cs).build.1.interpret utterance = none →
      b.build.1.interpret utterance = some r → r.get? commandField = some (.string c.id) := by
  have records : (a.addAll cs).Records subject (a.accepted cs) := (new_records start).addAll
  have reference : a.subjectRef = subject.reference := by
    rw [subjectRef, (new_records start).ownSubject]
  rw [reference] at own
  have old : ∀ d ∈ a.accepted cs, ∀ r ∈ d.subject, r = subject.reference :=
    fun d known => own d (List.mem_append_left [c] known)
  simp only [build]
  refine ⟨?_, fun r => records.command_of_newly_understood own added⟩
  intro r understood
  refine ⟨records.interpret_of_understood old added understood, ?_⟩
  intro plain
  have plain' : ∀ d ∈ a.accepted cs, IsFragment d.id :=
    fun d known => plain d (List.mem_append_left [c] known)
  exact records.resolve_of_understood old plain' added understood

def guard : Command :=
  ⟨"GUARD", ["watch", "guard"], [.tap .four], some pair.reference, none⟩

theorem interpret_addCommand_guard :
    Assembler.new "en-US" pair = .ok lookout ∧
    ∃ b, (lookout.addAll [watch]).addCommand guard = .ok b ∧
      (∃ r, (lookout.addAll [watch]).build.1.interpret "One, watch!" = some r ∧
        b.build.1.interpret "One, watch!" = some r ∧
        b.build.2.resolve r.order = (lookout.addAll [watch]).build.2.resolve r.order) ∧
      ∃ r, b.build.1.interpret "One, guard!" = some r ∧
        r.get? commandField = some (.string "GUARD") := by
  have start : Assembler.new "en-US" pair = .ok lookout := by rfl
  have added : (lookout.addAll [watch]).addCommand guard =
      .ok ((lookout.extended watch).extended guard) := by
    rw [addAll_lookout]
    refine addCommand_eq_ok_iff.mpr ⟨?_, nofun, rfl⟩
    simp [extended, lookout, Registry.contains, Registry.empty, watch, guard]
  have own : ∀ d ∈ lookout.accepted [watch] ++ [guard], ∀ r ∈ d.subject,
      r = lookout.subjectRef := by
    rw [accepted_watch]
    simp [watch, guard, subjectRef, lookout]
  have plain : ∀ d ∈ lookout.accepted [watch] ++ [guard], IsFragment d.id := by
    rw [accepted_watch]
    decide
  have known : ((lookout.addAll [watch]).build.1.interpret "One, watch!").isSome := by
    rw [addAll_lookout]
    decide +kernel
  have unknown : (lookout.addAll [watch]).build.1.interpret "One, guard!" = none := by
    rw [addAll_lookout, ← Option.not_isSome_iff_eq_none]
    decide +kernel
  have newly : (((lookout.extended watch).extended guard).build.1.interpret
      "One, guard!").isSome := by
    decide +kernel
  obtain ⟨r, before⟩ := Option.isSome_iff_exists.mp known
  obtain ⟨r', after⟩ := Option.isSome_iff_exists.mp newly
  obtain ⟨same, keys⟩ := (interpret_addCommand start added own "One, watch!").1 r before
  have command := (interpret_addCommand start added own "One, guard!").2 r' unknown after
  exact ⟨start, _, added, ⟨r, before, same, keys plain⟩, r', after, command⟩

end Assembler

end Callout
