import Callout.Proofs.Grammar.Interpretation
import Callout.Proofs.Registry
import Callout.Proofs.Semantics.Fragments

namespace Callout

theorem valuesOf_append (field : String) (a b : List (String × String)) :
    valuesOf field (a ++ b) = valuesOf field a ++ valuesOf field b := by
  simp [valuesOf]

theorem valuesOf_assigned (field other : String) (ms : List Mention) :
    valuesOf field (ms.map (·.assigned other)) =
      if other = field then ms.map (·.entry.tag) else [] := by
  unfold valuesOf
  by_cases same : other = field
  · subst same
    induction ms with
    | nil => simp
    | cons m ms ih => simpa [Mention.assigned] using ih
  · have apart : (ms.map (·.assigned other)).filter (·.1 == field) = [] := by
      simp [List.filter_eq_nil_iff, Mention.assigned, same]
    rw [apart, if_neg same, List.map_nil]

def Slot.Plain (s : Slot) : Prop :=
  ∀ e ∈ s.entries, IsFragment e.tag

def Command.Plain (c : Command) : Prop :=
  IsFragment c.id ∧ ∀ slot ∈ c.directObject, slot.Plain

namespace Spoken

variable {s : Spoken} {subject : Slot} {cs : List Command}

def order (s : Spoken) : Order where
  subjects := if s.subjects = [] then none else some (s.subjects.map (·.entry.tag))
  command := s.command.map (·.1.id)
  directObject := s.directObject.map (·.entry.tag)

theorem order_subjects_getD (s : Spoken) :
    s.order.subjects.getD [] = s.subjects.map (·.entry.tag) := by
  unfold order
  by_cases empty : s.subjects = [] <;> simp [empty]

theorem valuesOf_subject (s : Spoken) :
    valuesOf subjectField s.assigned = s.subjects.map (·.entry.tag) := by
  unfold assigned
  rw [valuesOf_append, valuesOf_append, valuesOf_assigned, if_pos rfl]
  cases s.command <;> cases s.directObject <;>
    simp [valuesOf, Mention.assigned, subjectField, commandField, directObjectField]

theorem valuesOf_command (s : Spoken) :
    valuesOf commandField s.assigned = (s.command.map (·.1.id)).toList := by
  unfold assigned
  rw [valuesOf_append, valuesOf_append, valuesOf_assigned, if_neg (by decide)]
  cases s.command <;> cases s.directObject <;>
    simp [valuesOf, Mention.assigned, commandField, directObjectField]

theorem valuesOf_directObject (s : Spoken) :
    valuesOf directObjectField s.assigned = (s.directObject.map (·.entry.tag)).toList := by
  unfold assigned
  rw [valuesOf_append, valuesOf_append, valuesOf_assigned, if_neg (by decide)]
  cases s.command <;> cases s.directObject <;>
    simp [valuesOf, Mention.assigned, commandField, directObjectField]

theorem Fits.names (fits : s.Fits subject cs) : s.Names subject := by
  cases fits <;> assumption

theorem Fits.known {c : Command} {phrase : String} (fits : s.Fits subject cs)
    (command : s.command = some (c, phrase)) : c ∈ cs ∧ s.Orders c := by
  cases fits with
  | alone names named uncommanded bare =>
    rw [uncommanded] at command
    cases command
  | order names known orders =>
    obtain ⟨phrase, _, same⟩ := orders.trigger
    rw [same] at command
    cases command
    exact ⟨known, orders⟩

theorem Fits.own {m : Mention} (fits : s.Fits subject cs) (said : s.directObject = some m) :
    ∃ c phrase, s.command = some (c, phrase) ∧ c ∈ cs ∧
      ∃ slot ∈ c.directObject, slot.Mentions m := by
  cases fits with
  | alone names named uncommanded bare =>
    rw [bare] at said
    cases said
  | @order names c known orders =>
    obtain ⟨phrase, _, same⟩ := orders.trigger
    exact ⟨c, phrase, same, known, orders.own m said⟩

theorem Fits.order_ofAssignments (fits : s.Fits subject cs) (plain : subject.Plain)
    (plains : ∀ c ∈ cs, c.Plain) : (SemanticResult.ofAssignments s.assigned).order = s.order := by
  have subjects : ∀ value ∈ valuesOf subjectField s.assigned, IsFragment value := by
    intro value member
    rw [valuesOf_subject] at member
    obtain ⟨m, said, rfl⟩ := List.mem_map.mp member
    exact plain m.entry (fits.names.2 m said).1
  have command : ∀ value ∈ valuesOf commandField s.assigned, IsFragment value := by
    intro value member
    rw [valuesOf_command, Option.mem_toList] at member
    obtain ⟨⟨c, phrase⟩, said, rfl⟩ := Option.map_eq_some_iff.mp member
    exact (plains c (fits.known said).1).1
  have directObject : ∀ value ∈ valuesOf directObjectField s.assigned, IsFragment value := by
    intro value member
    rw [valuesOf_directObject, Option.mem_toList] at member
    obtain ⟨m, said, rfl⟩ := Option.map_eq_some_iff.mp member
    obtain ⟨c, phrase, _, known, slot, own, mentions⟩ := fits.own said
    exact (plains c known).2 slot own m.entry mentions.1
  unfold SemanticResult.order Spoken.order
  rw [SemanticResult.list?_ofAssignments subjects, SemanticResult.scalar?_ofAssignments command,
    SemanticResult.scalar?_ofAssignments directObject, valuesOf_subject, valuesOf_command,
    valuesOf_directObject]
  congr 1
  · simp
  · cases s.command <;> rfl
  · cases s.directObject <;> rfl

end Spoken

namespace Assembler

variable {a : Assembler} {subject : Slot} {cs : List Command} {s : Spoken}

theorem Records.subjectKeys (h : a.Records subject cs) (built : subject.Built)
    (names : s.Names subject) :
    ((s.order.subjects.getD []).flatMap fun tag => (a.registry.subjectKeys? tag).getD []) =
      s.subjects.flatMap (·.entry.keys) := by
  rw [s.order_subjects_getD, List.flatMap_map]
  apply List.flatMap_congr
  intro m said
  rw [h.subjectKeys?_of_mem built (names.2 m said).1, Option.getD_some]

theorem Records.resolve_order (h : a.Records subject cs) (built : subject.Built)
    (suits : ∀ c ∈ cs, c.Suits subject) (fits : s.Fits subject cs) :
    a.registry.resolve s.order = s.keys := by
  have subjects := h.subjectKeys built fits.names
  unfold Registry.resolve Spoken.keys
  simp only [subjects]
  cases command : s.command with
  | none =>
    have bare : s.directObject = none := by
      cases said : s.directObject with
      | none => rfl
      | some m =>
        obtain ⟨c, phrase, same, _⟩ := fits.own said
        rw [command] at same
        cases same
    simp [Spoken.order, command, bare]
  | some chosen =>
    obtain ⟨c, phrase⟩ := chosen
    obtain ⟨known, orders⟩ := fits.known command
    cases said : s.directObject with
    | none => simp [Spoken.order, command, said, h.commandKeys?_of_mem known]
    | some m =>
      obtain ⟨slot, own, mentions⟩ := orders.own m said
      have keys := h.directObjectKeys?_of_mem known own ((suits c known).directObject slot own).1
        mentions.1
      simp [Spoken.order, command, said, h.commandKeys?_of_mem known, keys]

/-- What the grammar understands is known to the registry, and the registry sends the keys of just
what was said: of the subjects, the command and the direct object. -/
theorem resolve_interpret {culture utterance : String} {cs : List Command} {grammar : Grammar}
    {registry : Registry} {r : SemanticResult} (built : subject.Built)
    (kind : subject.kind = .subject) (start : Assembler.new culture subject = .ok a)
    (suits : ∀ c ∈ cs, c.Suits subject) (plain : subject.Plain) (plains : ∀ c ∈ cs, c.Plain)
    (result : (a.addAll cs).build = (grammar, registry))
    (understood : grammar.interpret utterance = some r) :
    (∀ tag ∈ r.order.subjects.getD [], ∃ e ∈ subject.entries, e.tag = tag) ∧
    (∀ id ∈ r.order.command, registry.contains id = true) ∧
    (∀ tag ∈ r.order.directObject, ∃ id ∈ r.order.command, ∃ c ∈ registry.get? id,
      ∃ slot ∈ c.directObject, ∃ e ∈ slot.entries, e.tag = tag) ∧
    ∃ s : Spoken, s.Fits subject (a.accepted cs) ∧ Text.words utterance = s.words ∧
      grammar.assignments? (Text.words utterance) = some s.assigned ∧
      r.order = s.order ∧ registry.resolve r.order = s.keys := by
  obtain ⟨rfl, rfl⟩ := Prod.mk.inj result
  have records : (a.addAll cs).Records subject (a.accepted cs) := (new_records start).addAll
  have suits' : ∀ c ∈ a.accepted cs, c.Suits subject :=
    fun c known => suits c (mem_of_mem_accepted known)
  have plains' : ∀ c ∈ a.accepted cs, c.Plain :=
    fun c known => plains c (mem_of_mem_accepted known)
  obtain ⟨entries, found, rfl⟩ := Grammar.assignments?_of_interpret understood
  obtain ⟨_, spelled⟩ := Grammar.spells_of_assignments? found
  obtain ⟨s, fits, words, rfl⟩ :=
    (records.spells_iff kind built.one_le_maxRepeat suits').mp spelled
  rw [fits.order_ofAssignments plain plains']
  refine ⟨?_, ?_, ?_, s, fits, words, found, rfl, records.resolve_order built suits' fits⟩
  · intro tag member
    rw [s.order_subjects_getD] at member
    obtain ⟨m, said, rfl⟩ := List.mem_map.mp member
    exact ⟨m.entry, (fits.names.2 m said).1, rfl⟩
  · intro id member
    obtain ⟨⟨c, phrase⟩, said, rfl⟩ := Option.map_eq_some_iff.mp member
    exact records.contains_of_mem (fits.known said).1
  · intro tag member
    obtain ⟨m, said, rfl⟩ := Option.map_eq_some_iff.mp member
    obtain ⟨c, phrase, command, known, slot, own, mentions⟩ := fits.own said
    refine ⟨c.id, ?_, c, records.get?_of_mem known, slot, own, m.entry, mentions.1, rfl⟩
    unfold Spoken.order
    rw [command]
    rfl

def pair : Slot :=
  ⟨"subject", .subject, 3,
    [⟨["one", "unit one"], "ONE", [.tap .f1]⟩, ⟨["two"], "TWO", [.tap .f2]⟩]⟩

def compass : Slot :=
  ⟨"directionDO", .directObject, 1,
    [⟨["north"], "NORTH", [.tap .one]⟩, ⟨["north east"], "NORTHEAST", [.tap .two]⟩]⟩

def watch : Command :=
  ⟨"WATCH", ["watch", "watch the"], [.tap .three, .tap .eight], some pair.reference, some compass⟩

theorem pair_built : pair.Built := by
  have first : (Slot.subject "subject" 3).addEntry ["one", "unit one"] "ONE" [.tap .f1] =
      .ok ⟨"subject", .subject, 3, [⟨["one", "unit one"], "ONE", [.tap .f1]⟩]⟩ := by rfl
  exact .addEntry (.addEntry (.subject "subject" 3) first)
    (show Slot.addEntry _ ["two"] "TWO" [.tap .f2] = .ok pair by rfl)

theorem compass_built : compass.Built := by
  have first : (Slot.directObject "directionDO").addEntry ["north"] "NORTH" [.tap .one] =
      .ok ⟨"directionDO", .directObject, 1, [⟨["north"], "NORTH", [.tap .one]⟩]⟩ := by rfl
  exact .addEntry (.addEntry (.directObject "directionDO") first)
    (show Slot.addEntry _ ["north east"] "NORTHEAST" [.tap .two] = .ok compass by rfl)

theorem watch_suits : watch.Suits pair where
  subject := by simp [watch]
  directObject := by simpa [watch] using ⟨compass_built, rfl⟩

theorem pair_plain : pair.Plain := by
  show ∀ e ∈ pair.entries, IsFragment e.tag
  decide

theorem watch_plain : watch.Plain := by
  have tags : ∀ e ∈ compass.entries, IsFragment e.tag := by decide
  refine ⟨by decide, ?_⟩
  intro slot own
  obtain rfl := Option.some.inj own
  exact tags

def lookout : Assembler :=
  ⟨"en-US", pair, [], ["commands", "subject"], [pair.reference.mention], .empty pair⟩

theorem addCommand_lookout : lookout.addCommand watch = .ok (lookout.extended watch) := by
  refine addCommand_eq_ok_iff.mpr ⟨Std.HashMap.contains_empty, ?_, rfl⟩
  intro slot own
  obtain rfl := Option.some.inj own
  decide

theorem addAll_lookout : lookout.addAll [watch] = lookout.extended watch := by
  unfold addAll
  rw [addCommand_lookout]
  rfl

theorem accepted_watch : lookout.accepted [watch] = [watch] := by
  simp only [accepted, addCommand_lookout]

theorem resolve_interpret_lookout :
    Assembler.new "en-US" pair = .ok lookout ∧
    ∃ r,
      (lookout.addAll [watch]).build.1.interpret "Two, unit one: watch the north east!" = some r ∧
      ∃ s : Spoken, s.Fits pair (lookout.accepted [watch]) ∧
        Text.words "Two, unit one: watch the north east!" = s.words ∧
        (lookout.addAll [watch]).build.2.resolve r.order = s.keys := by
  have start : Assembler.new "en-US" pair = .ok lookout := by rfl
  have understood : ((lookout.addAll [watch]).build.1.interpret
      "Two, unit one: watch the north east!").isSome := by
    rw [addAll_lookout]
    decide +kernel
  obtain ⟨r, found⟩ := Option.isSome_iff_exists.mp understood
  have suits : ∀ c ∈ [watch], c.Suits pair := by simpa using watch_suits
  have plains : ∀ c ∈ [watch], c.Plain := by simpa using watch_plain
  have agreement := resolve_interpret pair_built rfl start suits pair_plain plains rfl found
  obtain ⟨_, _, _, s, fits, words, _, _, keys⟩ := agreement
  exact ⟨start, r, found, s, fits, words, keys⟩

end Assembler

end Callout
