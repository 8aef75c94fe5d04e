import Callout.Catalog
import Callout.Proofs.Assembler.Admission

namespace Callout.Catalog

def TagDefinition.entry (t : TagDefinition) : SlotEntry :=
  ⟨t.phrases.map Text.trim, t.tag, taps t.keys⟩

def offers (tags : List TagDefinition) : List (TagDefinition × String) :=
  tags.flatMap fun t => t.phrases.map (t, ·)

theorem mem_offers {tags : List TagDefinition} {m : TagDefinition × String} :
    m ∈ offers tags ↔ m.1 ∈ tags ∧ m.2 ∈ m.1.phrases := by
  obtain ⟨t, phrase⟩ := m
  simp [offers]

theorem phrases_entries (tags : List TagDefinition) :
    (tags.map (·.entry)).flatMap (·.phrases) = (offers tags).map fun m => Text.trim m.2 := by
  rw [List.flatMap_map, offers, List.map_flatMap]
  apply List.flatMap_congr
  intro t _
  rw [List.map_map]
  rfl

theorem fill_eq_ok {s : Slot} {tags : List TagDefinition}
    (fresh : ((s.entries ++ tags.map (·.entry)).map (·.tag)).Nodup)
    (apart : ((s.entries ++ tags.map (·.entry)).flatMap (·.phrases) |>.map Slot.folded).Nodup) :
    fill s tags = .ok { s with entries := s.entries ++ tags.map (·.entry) } := by
  induction tags generalizing s with
  | nil =>
    rw [List.map_nil, List.append_nil]
    rfl
  | cons t tags ih =>
    have added : s.addEntry t.phrases t.tag (taps t.keys) =
        .ok { s with entries := s.entries ++ [t.entry] } := by
      apply Slot.addEntry_of_nodup
      · rw [List.map_append, List.map_cons, List.map_cons, List.nodup_middle,
          List.nodup_cons] at fresh
        intro taken
        exact fresh.1 (List.mem_append_left _ taken)
      · rw [List.map_cons, List.flatMap_append, List.flatMap_cons, ← List.append_assoc,
          List.map_append] at apart
        exact (List.nodup_append.mp apart).1
    have moved : s.entries ++ (t :: tags).map (·.entry) =
        (s.entries ++ [t.entry]) ++ tags.map (·.entry) := by simp
    rw [moved] at fresh apart ⊢
    have later := ih (s := { s with entries := s.entries ++ [t.entry] }) fresh apart
    rw [fill, List.foldlM_cons, added]
    exact later

theorem fill_built {s t : Slot} {tags : List TagDefinition} (built : s.Built)
    (filled : fill s tags = .ok t) : t.Built := by
  induction tags generalizing s with
  | nil =>
    obtain rfl := Except.ok.inj filled
    exact built
  | cons tag tags ih =>
    rw [fill, List.foldlM_cons] at filled
    cases added : s.addEntry tag.phrases tag.tag (taps tag.keys) with
    | error e =>
      rw [added] at filled
      cases filled
    | ok s' =>
      rw [added] at filled
      exact ih (built.addEntry added) filled

def wording (phrase : String) : List (List Char) :=
  Text.wordsOf phrase.toList

/-- The tags of some definitions differ, and so do their phrases, also as far as their words go. -/
structure Tellable (tags : List TagDefinition) : Prop where
  tagsNodup : (tags.map (·.tag)).Nodup
  phrasesNodup : ((offers tags).map fun m => Slot.folded (Text.trim m.2)).Nodup
  words : ∀ m ∈ offers tags, wording m.2 ≠ []
  wordingsNodup : ((offers tags).map (wording ·.2)).Nodup

instance (tags : List TagDefinition) : Decidable (Tellable tags) :=
  decidable_of_iff (_ ∧ _ ∧ _ ∧ _)
    ⟨fun h => ⟨h.1, h.2.1, h.2.2.1, h.2.2.2⟩,
      fun h => ⟨h.tagsNodup, h.phrasesNodup, h.words, h.wordingsNodup⟩⟩

theorem Tellable.fill_eq_ok {s : Slot} {tags : List TagDefinition} (tellable : Tellable tags)
    (empty : s.entries = []) : fill s tags = .ok { s with entries := tags.map (·.entry) } := by
  have filled : fill s tags = .ok { s with entries := s.entries ++ tags.map (·.entry) } := by
    apply Catalog.fill_eq_ok
    · rw [empty, List.nil_append, List.map_map]
      exact tellable.tagsNodup
    · rw [empty, List.nil_append, phrases_entries, List.map_map, Function.comp_def]
      exact tellable.phrasesNodup
  rwa [empty, List.nil_append] at filled

theorem tellable_subjects : Tellable subjects := by decide +kernel

theorem tellable_directObject :
    ∀ d ∈ commands, ∀ o ∈ d.directObject, Tellable o.tags := by
  decide +kernel

def units (maxSubjects : Nat) : Slot :=
  { Slot.subject "subject" maxSubjects with entries := subjects.map (·.entry) }

def unitsReference : SlotReference :=
  ⟨"subject", .subject⟩

def DirectObjectDefinition.slot (o : DirectObjectDefinition) : Slot :=
  { Slot.directObject o.name with entries := o.tags.map (·.entry) }

def CommandDefinition.assembled (d : CommandDefinition) : Command :=
  .new d.id d.phrases (taps d.keys) (if d.addressed then some unitsReference else none)
    (d.directObject.map (·.slot))

theorem subjectSlot_eq (maxSubjects : Nat) : subjectSlot maxSubjects = .ok (units maxSubjects) :=
  tellable_subjects.fill_eq_ok rfl

theorem units_built (maxSubjects : Nat) : (units maxSubjects).Built :=
  fill_built (.subject "subject" maxSubjects) (subjectSlot_eq maxSubjects)

theorem fill_directObject {d : CommandDefinition} {o : DirectObjectDefinition}
    (known : d ∈ commands) (own : o ∈ d.directObject) :
    fill (.directObject o.name) o.tags = .ok o.slot :=
  (tellable_directObject d known o own).fill_eq_ok rfl

theorem command_eq {d : CommandDefinition} (known : d ∈ commands) :
    d.command unitsReference = .ok d.assembled := by
  unfold CommandDefinition.command CommandDefinition.assembled
  cases own : d.directObject with
  | none => rfl
  | some o =>
    have filled := fill_directObject known own
    simp only [Option.mapM_some, filled]
    rfl

theorem assembled_suits {d : CommandDefinition} (known : d ∈ commands) (maxSubjects : Nat) :
    d.assembled.Suits (units maxSubjects) where
  subject := by
    intro r present
    simp only [CommandDefinition.assembled, Command.new] at present
    split at present
    · exact (Option.some.inj present).symm
    · cases present
  directObject := by
    intro slot present
    obtain ⟨o, own, rfl⟩ := Option.map_eq_some_iff.mp present
    exact ⟨fill_built (.directObject o.name) (fill_directObject known own), rfl⟩

theorem ids_nodup : (commands.map (·.id)).Nodup := by decide +kernel

theorem assembled_ids_nodup : ((commands.map (·.assembled)).map (·.id)).Nodup := by
  rw [List.map_map]
  exact ids_nodup

theorem takenNames_nodup (maxSubjects : Nat) :
    (Assembler.takenNames (units maxSubjects) (commands.map (·.assembled))).Nodup := by
  have names : Assembler.takenNames (units maxSubjects) (commands.map (·.assembled)) =
      rootRule :: "subject" :: commands.filterMap fun d => d.directObject.map (·.name) := by
    rw [Assembler.takenNames, List.filterMap_map]
    congr 3
    funext d
    exact Option.map_map _ _ _
  rw [names]
  decide +kernel

theorem addCommands_eq_ok {a : Assembler} {subject : Slot} {cs : List Command}
    {ds : List CommandDefinition} (h : a.Records subject cs)
    (reference : subject.reference = unitsReference) (known : ds ⊆ commands)
    (ids : ((cs ++ ds.map (·.assembled)).map (·.id)).Nodup)
    (names : (Assembler.takenNames subject (cs ++ ds.map (·.assembled))).Nodup) :
    ∃ b, addCommands a ds = (b, .ok ()) ∧ b.Records subject (cs ++ ds.map (·.assembled)) := by
  induction ds generalizing a cs with
  | nil => exact ⟨a, rfl, by rwa [List.map_nil, List.append_nil]⟩
  | cons d ds ih =>
    obtain ⟨first, later⟩ := List.cons_subset.mp known
    have id : d.assembled.id ∉ cs.map (·.id) := by
      rw [List.map_append, List.map_cons, List.map_cons, List.nodup_middle, List.nodup_cons] at ids
      intro taken
      exact ids.1 (List.mem_append_left _ taken)
    have free : ∀ slot ∈ d.assembled.directObject,
        slot.name ∉ Assembler.takenNames subject cs := by
      intro slot own taken
      rw [Assembler.takenNames_append, List.map_cons, List.filterMap_cons, Option.mem_def.mp own,
        Option.map_some, List.nodup_middle, List.nodup_cons] at names
      exact names.1 (List.mem_append_left _ taken)
    have moved : cs ++ (d :: ds).map (·.assembled) =
        (cs ++ [d.assembled]) ++ ds.map (·.assembled) := by simp
    rw [moved] at ids names ⊢
    obtain ⟨b, added⟩ := (h.admits d.assembled).accepted.mpr ⟨id, free⟩
    have step : (d.command a.subjectRef >>= a.addCommand) = .ok b := by
      rw [h.subjectRef_eq, reference, command_eq first]
      exact added
    rw [addCommands, step]
    exact ih (h.addCommand added) later ids names

/-- The built-in commands are all accepted, in menu order. -/
theorem assemble_eq (culture : String) (maxSubjects : Nat) :
    ∃ a : Assembler, a.Records (units maxSubjects) (commands.map (·.assembled)) ∧
      assemble culture maxSubjects = .ok a.build := by
  obtain ⟨start, new⟩ : ∃ a, Assembler.new culture (units maxSubjects) = .ok a := ⟨_, rfl⟩
  obtain ⟨a, added, records⟩ := addCommands_eq_ok (Assembler.new_records new) rfl
    (List.Subset.refl commands) assembled_ids_nodup (takenNames_nodup maxSubjects)
  refine ⟨a, records, ?_⟩
  unfold assemble register
  rw [subjectSlot_eq]
  simp only [bind, Except.bind, new, added]
  rfl

end Callout.Catalog
