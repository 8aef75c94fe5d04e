import Callout.Proofs.Agreement

namespace Callout

namespace Spoken

theorem valuesOf_other {field : String} (s : Spoken)
    (other : field ≠ subjectField ∧ field ≠ commandField ∧ field ≠ directObjectField) :
    valuesOf field s.assigned = [] := by
  obtain ⟨subject, command, directObject⟩ := other
  unfold assigned
  rw [valuesOf_append, valuesOf_append, valuesOf_assigned, if_neg subject.symm]
  cases s.command <;> cases s.directObject <;>
    simp [valuesOf, Mention.assigned, command.symm, directObject.symm]

/-- The fields hold the tags of what was said, and there are no others. -/
structure Fields (s : Spoken) (r : SemanticResult) : Prop where
  subject : r.get? subjectField = spelled? (s.subjects.map (·.entry.tag))
  command : r.get? commandField = s.command.map fun c => .string c.1.id
  directObject : r.get? directObjectField = s.directObject.map fun m => .string m.entry.tag
  only : ∀ field, r.contains field = true →
    field = subjectField ∨ field = commandField ∨ field = directObjectField

theorem fields_ofAssignments (s : Spoken) : s.Fields (.ofAssignments s.assigned) := by
  refine ⟨?_, ?_, ?_, ?_⟩
  · rw [SemanticResult.get?_ofAssignments, valuesOf_subject, spelled?_eq]
  · rw [SemanticResult.get?_ofAssignments, valuesOf_command]
    cases s.command <;> rfl
  · rw [SemanticResult.get?_ofAssignments, valuesOf_directObject]
    cases s.directObject <;> rfl
  · intro field present
    by_contra unknown
    push Not at unknown
    have absent := s.valuesOf_other unknown
    rw [SemanticResult.contains, SemanticResult.get?_ofAssignments, if_pos absent] at present
    cases present

end Spoken

namespace Assembler

variable {a : Assembler} {subject : Slot} {cs : List Command}

/-- The grammar understands just what its commands allow to be said, and tells the tags of it: up to
as many subjects as the slot has room for, alone or before the trigger phrase of a command that
takes them, and after that at most one direct object of the command. -/
theorem interpret_assembled {culture : String} (built : subject.Built)
    (kind : subject.kind = .subject) (start : Assembler.new culture subject = .ok a)
    (suits : ∀ c ∈ a.accepted cs, c.Suits subject) (utterance : String) :
    (((a.addAll cs).build.1.interpret utterance).isSome ↔ Text.words utterance ≠ [] ∧
      ∃ s : Spoken, s.Fits subject (a.accepted cs) ∧ Text.words utterance = s.words) ∧
    ∀ r, (a.addAll cs).build.1.interpret utterance = some r →
      ∃ s : Spoken, s.Fits subject (a.accepted cs) ∧ Text.words utterance = s.words ∧
        s.Fields r := by
  have records : (a.addAll cs).Records subject (a.accepted cs) := (new_records start).addAll
  have spells {ws : List String} {entries : List (String × String)} :
      (a.addAll cs).grammar.Spells ws entries ↔
        ∃ s : Spoken, s.Fits subject (a.accepted cs) ∧ ws = s.words ∧ entries = s.assigned :=
    records.spells_iff kind built.one_le_maxRepeat suits
  constructor
  · rw [Grammar.interpret_isSome_iff]
    refine and_congr_right fun _ => ?_
    constructor
    · intro h
      obtain ⟨entries, spelled⟩ := h
      obtain ⟨s, fits, words, _⟩ := spells.mp spelled
      exact ⟨s, fits, words⟩
    · intro h
      obtain ⟨s, fits, words⟩ := h
      exact ⟨s.assigned, spells.mpr ⟨s, fits, words, rfl⟩⟩
  · intro r understood
    obtain ⟨entries, found, rfl⟩ := Grammar.assignments?_of_interpret understood
    obtain ⟨_, spelled⟩ := Grammar.spells_of_assignments? found
    obtain ⟨s, fits, words, rfl⟩ := spells.mp spelled
    exact ⟨s, fits, words, s.fields_ofAssignments⟩

def sighting : Spoken where
  subjects :=
    [⟨⟨["one", "unit one"], "ONE", [.tap .f1]⟩, "unit one"⟩,
     ⟨⟨["two"], "TWO", [.tap .f2]⟩, "two"⟩,
     ⟨⟨["one", "unit one"], "ONE", [.tap .f1]⟩, "one"⟩]
  command := some (watch, "watch the")
  directObject := some ⟨⟨["north east"], "NORTHEAST", [.tap .two]⟩, "north east"⟩

theorem sighting_fits : sighting.Fits pair [watch] := by
  have names : sighting.Names pair := by
    refine ⟨by decide, ?_⟩
    simp [sighting, pair, Slot.Mentions]
  refine .order names List.mem_cons_self ⟨⟨"watch the", by decide, rfl⟩, fun _ => rfl, ?_⟩
  simp [sighting, watch, compass, Slot.Mentions]

theorem interpret_assembled_lookout :
    Assembler.new "en-US" pair = .ok lookout ∧
    ∃ r, (lookout.addAll [watch]).build.1.interpret
        "Unit one, two, one: watch the north east!" = some r ∧
      r.get? subjectField = some (.string "\x7bONE\x7d \x7bTWO\x7d \x7bONE\x7d") ∧
      ∃ s : Spoken, s.Fits pair (lookout.accepted [watch]) ∧ s.Fields r := by
  have start : Assembler.new "en-US" pair = .ok lookout := by rfl
  have suits : ∀ c ∈ lookout.accepted [watch], c.Suits pair := by
    rw [accepted_watch]
    simpa using watch_suits
  have words : Text.words "Unit one, two, one: watch the north east!" = sighting.words := by
    decide +kernel
  obtain ⟨exactly, fields⟩ := interpret_assembled pair_built rfl start suits
    "Unit one, two, one: watch the north east!"
  have fits : sighting.Fits pair (lookout.accepted [watch]) := by
    rw [accepted_watch]
    exact sighting_fits
  have understood := exactly.mpr ⟨by decide +kernel, sighting, fits, words⟩
  obtain ⟨r, found⟩ := Option.isSome_iff_exists.mp understood
  obtain ⟨s, fits, _, holds⟩ := fields r found
  have assigned : (lookout.addAll [watch]).build.1.assignments?
      (Text.words "Unit one, two, one: watch the north east!") =
      some [("subject", "ONE"), ("subject", "TWO"), ("subject", "ONE"), ("command", "WATCH"),
        ("directObject", "NORTHEAST")] := by
    rw [addAll_lookout]
    decide +kernel
  have told : r.get? subjectField = some (.string "\x7bONE\x7d \x7bTWO\x7d \x7bONE\x7d") := by
    rw [Grammar.interpret, assigned] at found
    obtain rfl := Option.some.inj found
    rfl
  exact ⟨start, r, found, told, s, fits, holds⟩

end Assembler

end Callout
