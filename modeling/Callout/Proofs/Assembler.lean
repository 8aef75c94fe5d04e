import Callout.Assembler
import Callout.Proofs.Grammar.Recognition
import Callout.Proofs.Spoken

namespace Callout

namespace Registry

theorem contains_eq_isSome (r : Registry) (id : String) : r.contains id = r.commands[id]?.isSome :=
  Std.HashMap.contains_eq_isSome_getElem?

end Registry

namespace Assembler

def addAll (a : Assembler) : List Command → Assembler
  | [] => a
  | c :: cs =>
    match a.addCommand c with
    | .ok b => b.addAll cs
    | .error _ => a.addAll cs

def accepted (a : Assembler) : List Command → List Command
  | [] => []
  | c :: cs =>
    match a.addCommand c with
    | .ok b => c :: b.accepted cs
    | .error _ => a.accepted cs

theorem mem_of_mem_accepted {a : Assembler} {c : Command} {cs : List Command}
    (h : c ∈ a.accepted cs) : c ∈ cs := by
  induction cs generalizing a with
  | nil => cases h
  | cons d cs ih =>
    unfold accepted at h
    split at h
    · rcases List.mem_cons.mp h with rfl | later
      · exact List.mem_cons_self
      · exact List.mem_cons_of_mem _ (ih later)
    · exact List.mem_cons_of_mem _ (ih h)

def takenNames (subject : Slot) (cs : List Command) : List String :=
  rootRule :: subject.name :: cs.filterMap fun c => c.directObject.map (·.name)

theorem takenNames_append (subject : Slot) (cs ds : List Command) :
    takenNames subject (cs ++ ds) =
      takenNames subject cs ++ ds.filterMap fun c => c.directObject.map (·.name) := by
  simp [takenNames]

/-- All that is kept about the commands accepted so far. -/
structure Records (a : Assembler) (subject : Slot) (cs : List Command) : Prop where
  ownSubject : a.subject = subject
  alternatives : a.alternatives = subject.reference.mention :: cs.map (·.alternative)
  directObjects : a.directObjects = cs.filterMap fun c => c.directObject.map (·.rule)
  ruleIds : a.ruleIds = takenNames subject cs
  registrySubject : a.registry.subject = subject
  ids : a.registry.ids = cs.map (·.id)
  commands : ∀ id, a.registry.commands[id]? =
    (cs.find? (·.id == id)).map fun c => ⟨c, c.directObjectTable⟩
  idsNodup : (cs.map (·.id)).Nodup
  rulesNodup : (takenNames subject cs).Nodup

def extended (a : Assembler) (c : Command) : Assembler :=
  { a with
    directObjects := a.directObjects ++ (c.directObject.map (·.rule)).toList
    ruleIds := a.ruleIds ++ (c.directObject.map (·.rule.id)).toList
    alternatives := a.alternatives ++ [c.alternative]
    registry := { a.registry with
      commands := a.registry.commands.insert c.id ⟨c, c.directObjectTable⟩
      ids := a.registry.ids ++ [c.id] } }

theorem addCommand_eq_ok_iff {a b : Assembler} {c : Command} :
    a.addCommand c = .ok b ↔ a.registry.contains c.id = false ∧
      (∀ slot ∈ c.directObject, slot.name ∉ a.ruleIds) ∧ b = a.extended c := by
  unfold addCommand
  by_cases known : a.registry.contains c.id = true
  · simp [known]
  · have unknown : a.registry.contains c.id = false := by simpa using known
    have registered : a.registry.register c = .ok (a.extended c).registry := by
      rw [Registry.register, if_neg known]
      rfl
    rw [if_neg known, registered]
    cases own : c.directObject with
    | none => simp [unknown, extended, own, Except.map, eq_comm]
    | some slot =>
      by_cases taken : slot.name ∈ a.ruleIds
      · simp [Option.filter_some, taken]
      · simp [Option.filter_some, taken, unknown, extended, own, Except.map, eq_comm]

theorem new_records {culture : String} {subject : Slot} {a : Assembler}
    (h : Assembler.new culture subject = .ok a) : a.Records subject [] := by
  unfold Assembler.new at h
  split at h
  · cases h
  · rename_i different
    obtain rfl := Except.ok.inj h
    refine ⟨rfl, rfl, rfl, rfl, rfl, rfl, ?_, List.nodup_nil, ?_⟩
    · intro id
      exact Std.HashMap.getElem?_empty
    · have apart : rootRule ≠ subject.name := by
        intro same
        exact different (beq_iff_eq.mpr same.symm)
      simpa [takenNames] using apart

variable {a b : Assembler} {subject : Slot} {cs : List Command}

theorem Records.fresh {c : Command} (h : a.Records subject cs)
    (unknown : a.registry.contains c.id = false) : c.id ∉ cs.map (·.id) := by
  rw [Registry.contains_eq_isSome, h.commands, Option.isSome_map] at unknown
  intro taken
  have found := find?_isSome_iff.mpr taken
  rw [unknown] at found
  cases found

theorem Records.addCommand {c : Command} (h : a.Records subject cs)
    (added : a.addCommand c = .ok b) :
    b.Records subject (cs ++ [c]) := by
  obtain ⟨unknown, free, rfl⟩ := addCommand_eq_ok_iff.mp added
  have fresh := h.fresh unknown
  unfold extended
  have named : takenNames subject (cs ++ [c]) =
      takenNames subject cs ++ (c.directObject.map (·.rule.id)).toList := by
    rw [takenNames_append]
    cases own : c.directObject <;> simp [own, Slot.rule]
  refine ⟨h.ownSubject, ?_, ?_, ?_, h.registrySubject, ?_, ?_, ?_, ?_⟩
  · rw [h.alternatives, List.map_append]
    rfl
  · have last : [c].filterMap (fun c => c.directObject.map (·.rule)) =
        (c.directObject.map (·.rule)).toList := by
      cases own : c.directObject <;> simp [own]
    rw [h.directObjects, List.filterMap_append, last]
  · rw [h.ruleIds, named]
  · rw [h.ids, List.map_append]
    rfl
  · intro id
    rw [Std.HashMap.getElem?_insert, h.commands, List.find?_append]
    by_cases here : c.id = id
    · subst here
      have absent : cs.find? (·.id == c.id) = none := by
        rw [← Option.not_isSome_iff_eq_none, find?_isSome_iff]
        exact fresh
      simp [absent]
    · simp [here]
  · rw [List.map_append, List.map_singleton, ← List.concat_eq_append]
    exact h.idsNodup.concat fresh
  · rw [named]
    cases own : c.directObject with
    | none => simpa using h.rulesNodup
    | some slot =>
      have apart := free slot own
      rw [h.ruleIds] at apart
      rw [Option.map_some, Option.toList_some, ← List.concat_eq_append]
      exact h.rulesNodup.concat apart

theorem Records.addAll {ds : List Command} (h : a.Records subject cs) :
    (a.addAll ds).Records subject (cs ++ a.accepted ds) := by
  induction ds generalizing a cs with
  | nil =>
    rw [accepted, List.append_nil]
    exact h
  | cons d ds ih =>
    unfold Assembler.addAll accepted
    split
    · rename_i b added
      have step := ih (h.addCommand added)
      rwa [List.append_assoc, List.singleton_append] at step
    · exact ih h

theorem Records.subjectRef_eq (h : a.Records subject cs) : a.subjectRef = subject.reference := by
  rw [subjectRef, h.ownSubject]

theorem Records.rules_nodup (h : a.Records subject cs) : (a.grammar.rules.map (·.id)).Nodup := by
  have same : a.grammar.rules.map (·.id) =
      (subject.name :: cs.filterMap fun c => c.directObject.map (·.name)) ++ [rootRule] := by
    simp [grammar, h.ownSubject, h.directObjects, List.map_filterMap, Slot.rule, Function.comp_def]
  rw [same]
  exact (List.perm_append_singleton _ _).nodup_iff.mpr h.rulesNodup

theorem Records.rule?_of_mem {rule : Rule} (h : a.Records subject cs)
    (member : rule ∈ a.grammar.rules) : a.grammar.rule? rule.id = some rule :=
  find?_of_nodup Rule.id h.rules_nodup member

theorem Records.rule?_subject (h : a.Records subject cs) :
    a.grammar.rule? subject.name = some subject.rule := by
  have member : subject.rule ∈ a.grammar.rules := by simp [grammar, h.ownSubject]
  exact h.rule?_of_mem member

theorem Records.rule?_directObject {c : Command} {slot : Slot} (h : a.Records subject cs)
    (known : c ∈ cs) (own : slot ∈ c.directObject) :
    a.grammar.rule? slot.name = some slot.rule := by
  have listed : slot.rule ∈ a.directObjects := by
    rw [h.directObjects, List.mem_filterMap]
    exact ⟨c, known, by rw [own, Option.map_some]⟩
  have member : slot.rule ∈ a.grammar.rules := by simp [grammar, listed]
  exact h.rule?_of_mem member

theorem Records.rootRule? (h : a.Records subject cs) :
    a.grammar.rootRule? = some ⟨rootRule, .shared, .oneOf a.alternatives⟩ := by
  have member : (⟨rootRule, .shared, .oneOf a.alternatives⟩ : Rule) ∈ a.grammar.rules := by
    simp [grammar]
  exact h.rule?_of_mem member

theorem Records.derives_iff {ds : List Command} {ws : List String}
    {entries : List (String × String)} (h : a.Records subject cs) (among : ds ⊆ cs)
    (kind : subject.kind = .subject) (limit : 1 ≤ subject.maxRepeat)
    (suits : ∀ c ∈ ds, c.Suits subject) :
    a.grammar.Derives Grammar.maxNesting
        (.oneOf (subject.reference.mention :: ds.map (·.alternative))) ws entries ↔
      ∃ s : Spoken, s.Fits subject ds ∧ ws = s.words ∧ entries = s.assigned := by
  have found := h.rule?_subject
  have own : ∀ c ∈ ds, ∀ slot ∈ c.directObject, a.grammar.rule? slot.name = some slot.rule :=
    fun c known slot belongs => h.rule?_directObject (among known) belongs
  have mention : a.grammar.Derives Grammar.maxNesting subject.reference.mention ws entries ↔
      a.grammar.Derives 31 subject.rule.body ws entries := Grammar.derives_mention found
  have order : ∀ c ∈ ds, a.grammar.Derives Grammar.maxNesting c.alternative ws entries ↔
      ∃ s : Spoken, s.Names subject ∧ s.Orders c ∧ ws = s.words ∧ entries = s.assigned :=
    fun c known => Grammar.derives_command (suits c known) limit kind found (own c known)
  rw [Grammar.derives_oneOf]
  constructor
  · intro derivation
    obtain ⟨e, alternative, derived⟩ := derivation
    rcases List.mem_cons.mp alternative with rfl | listed
    · have spoken := (Grammar.derives_slot limit).mp (mention.mp derived)
      obtain ⟨ms, named, bound, all, rfl, rfl⟩ := spoken
      refine ⟨⟨ms, none, none⟩, .alone ⟨bound, all⟩ named rfl rfl, ?_, ?_⟩
      · simp [Spoken.words]
      · simp [Spoken.assigned, kind, SlotKind.field]
    · obtain ⟨c, known, rfl⟩ := List.mem_map.mp listed
      obtain ⟨s, names, orders, spelled⟩ := (order c known).mp derived
      exact ⟨s, .order names known orders, spelled⟩
  · intro spoken
    obtain ⟨s, fits, rfl, rfl⟩ := spoken
    cases fits with
    | alone names named uncommanded bare =>
      refine ⟨_, List.mem_cons_self, mention.mpr ((Grammar.derives_slot limit).mpr ?_)⟩
      refine ⟨s.subjects, named, names.1, names.2, ?_, ?_⟩
      · simp [Spoken.words, uncommanded, bare]
      · simp [Spoken.assigned, uncommanded, bare, kind, SlotKind.field]
    | @order names c known orders =>
      refine ⟨c.alternative, List.mem_cons_of_mem _ (List.mem_map_of_mem known), ?_⟩
      exact (order c known).mpr ⟨s, names, orders, rfl, rfl⟩

/-- The grammar derives exactly what its commands allow to be said. -/
theorem Records.spells_iff {ws : List String} {entries : List (String × String)}
    (h : a.Records subject cs) (kind : subject.kind = .subject) (limit : 1 ≤ subject.maxRepeat)
    (suits : ∀ c ∈ cs, c.Suits subject) :
    a.grammar.Spells ws entries ↔
      ∃ s : Spoken, s.Fits subject cs ∧ ws = s.words ∧ entries = s.assigned := by
  rw [← h.derives_iff (List.Subset.refl cs) kind limit suits, ← h.alternatives]
  unfold Grammar.Spells
  simp only [h.rootRule?, Option.some.injEq, exists_eq_left']

end Assembler

end Callout
