import Callout.Proofs.Assembler.Extension
import Callout.Proofs.Text.Words

namespace Callout

namespace Spoken

def phrases (s : Spoken) : List String :=
  s.subjects.map (·.phrase) ++
    ((s.command.map (·.2)).toList ++ (s.directObject.map (·.phrase)).toList)

def text (s : Spoken) : String :=
  " ".intercalate s.phrases

theorem words_text (s : Spoken) : Text.words s.text = s.words := by
  have subjects (ms : List Mention) :
      (ms.map (·.phrase)).flatMap Text.words = ms.flatMap (·.words) := by
    rw [List.flatMap_map]
    rfl
  unfold text phrases words
  rw [Text.words_intercalate, List.flatMap_append, List.flatMap_append, subjects]
  cases s.command <;> cases s.directObject <;> simp [Mention.words]

/-- The phrases belong to the subject, to one of the commands and to its direct object, whether or
not the command takes subjects and however many there are. -/
structure Utters (s : Spoken) (subject : Slot) (cs : List Command) : Prop where
  subjects : ∀ m ∈ s.subjects, subject.Mentions m
  command : ∀ c phrase, s.command = some (c, phrase) → c ∈ cs ∧ phrase ∈ c.phrases
  directObject : ∀ m ∈ s.directObject, ∃ c phrase, s.command = some (c, phrase) ∧
    ∃ slot ∈ c.directObject, slot.Mentions m

theorem Fits.utters {s : Spoken} {subject : Slot} {cs : List Command} (fits : s.Fits subject cs) :
    s.Utters subject cs where
  subjects := fits.names.2
  command c phrase said := by
    obtain ⟨known, orders⟩ := fits.known said
    obtain ⟨phrase', trigger, same⟩ := orders.trigger
    rw [same] at said
    cases said
    exact ⟨known, trigger⟩
  directObject m said := by
    obtain ⟨c, phrase, command, _, own⟩ := fits.own said
    exact ⟨c, phrase, command, own⟩

end Spoken

def StartsPhrase (subject : Slot) (cs : List Command) (w : String) : Prop :=
  (∃ m, subject.Mentions m ∧ w ∈ m.words.head?) ∨
    ∃ c ∈ cs, ∃ phrase ∈ c.phrases, w ∈ (Text.words phrase).head?

/-- The phrases of a subject and of some commands can be told apart word by word. Only a trigger
phrase may be shared by several commands. -/
structure Distinct (subject : Slot) (cs : List Command) : Prop where
  subjectWords : ∀ m, subject.Mentions m → m.words ≠ []
  -- A phrase of a subject that starts with another one goes on with a word that nothing starts
  -- with.
  subjects : ∀ m n, subject.Mentions m → subject.Mentions n → ∀ rest, n.words = m.words ++ rest →
    rest = [] ∧ m = n ∨ ∃ w ∈ rest.head?, ¬ StartsPhrase subject cs w
  triggerWords : ∀ c ∈ cs, ∀ phrase ∈ c.phrases, Text.words phrase ≠ []
  -- No trigger phrase starts like a subject.
  triggers : ∀ c ∈ cs, ∀ phrase ∈ c.phrases, ∀ m, subject.Mentions m →
    ∀ w ∈ (Text.words phrase).head?, w ∉ m.words.head?
  -- No trigger phrase reads like another one with the start of a direct object behind it.
  extensions : ∀ c ∈ cs, ∀ slot ∈ c.directObject, ∀ phrase ∈ c.phrases, ∀ d ∈ cs,
    ∀ longer ∈ d.phrases, ∀ m, slot.Mentions m → ∀ w ∈ m.words.head?,
      ¬ Text.words phrase ++ [w] <+: Text.words longer
  directObjects : ∀ c ∈ cs, ∀ slot ∈ c.directObject, ∀ m n, slot.Mentions m → slot.Mentions n →
    m.words ≠ [] ∧ (m.words = n.words → m = n)

namespace Distinct

variable {subject : Slot} {cs : List Command}

def Ends (cs : List Command) (vs : List String) : Prop :=
  ∀ w ∈ vs.head?, ∃ c ∈ cs, ∃ phrase ∈ c.phrases, w ∈ (Text.words phrase).head?

theorem startsPhrase_of_head? {ms : List Mention} {vs : List String} {w : String}
    (distinct : Distinct subject cs) (mentions : ∀ m ∈ ms, subject.Mentions m)
    (ends : Ends cs vs) (first : w ∈ (ms.flatMap (·.words) ++ vs).head?) :
    StartsPhrase subject cs w := by
  cases ms with
  | nil => exact .inr (ends w first)
  | cons m ms =>
    have said := mentions m List.mem_cons_self
    have filled := distinct.subjectWords m said
    refine .inl ⟨m, said, ?_⟩
    rw [List.flatMap_cons, List.append_assoc, List.head?_append_of_ne_nil _ filled] at first
    exact first

/-- What follows a phrase of a subject starts another phrase, so it does not lengthen this one. -/
theorem eq_of_longer {m n : Mention} {rest before after : List String}
    (distinct : Distinct subject cs) (said : subject.Mentions m) (said' : subject.Mentions n)
    (longer : n.words = m.words ++ rest) (follows : before = rest ++ after)
    (starts : ∀ w ∈ before.head?, StartsPhrase subject cs w) : rest = [] ∧ m = n := by
  rcases distinct.subjects m n said said' rest longer with same | ⟨w, first, never⟩
  · exact same
  · have here : w ∈ before.head? := by
      rw [follows]
      exact List.mem_head?_append_of_mem_head? first
    exact absurd (starts w here) never

theorem subjects_unique {ms ns : List Mention} {vs us : List String}
    (distinct : Distinct subject cs) (mentions : ∀ m ∈ ms, subject.Mentions m)
    (mentions' : ∀ n ∈ ns, subject.Mentions n) (ends : Ends cs vs) (ends' : Ends cs us)
    (same : ms.flatMap (·.words) ++ vs = ns.flatMap (·.words) ++ us) : ms = ns ∧ vs = us := by
  -- A list of subjects and the words of a command start with different words.
  have apart {n : Mention} {rest vs : List String} (said : subject.Mentions n)
      (ends : Ends cs vs) : vs ≠ n.words ++ rest := by
    intro same
    obtain ⟨w, others, filled⟩ := List.exists_cons_of_ne_nil (distinct.subjectWords n said)
    obtain ⟨c, known, phrase, trigger, first⟩ := ends w (by rw [same, filled]; rfl)
    exact distinct.triggers c known phrase trigger n said w first (by rw [filled]; rfl)
  induction ms generalizing ns with
  | nil =>
    cases ns with
    | nil => exact ⟨rfl, same⟩
    | cons n ns =>
      rw [List.flatMap_nil, List.nil_append, List.flatMap_cons, List.append_assoc] at same
      exact absurd same (apart (mentions' n List.mem_cons_self) ends)
  | cons m ms ih =>
    obtain ⟨said, later⟩ := List.forall_mem_cons.mp mentions
    cases ns with
    | nil =>
      rw [List.flatMap_nil, List.nil_append, List.flatMap_cons, List.append_assoc] at same
      exact absurd same.symm (apart said ends')
    | cons n ns =>
      obtain ⟨said', later'⟩ := List.forall_mem_cons.mp mentions'
      rw [List.flatMap_cons, List.flatMap_cons, List.append_assoc, List.append_assoc] at same
      rcases List.append_eq_append_iff.mp same with
        ⟨rest, longer, follows⟩ | ⟨rest, longer, follows⟩
      · have starts := fun w => distinct.startsPhrase_of_head? later ends (w := w)
        obtain ⟨rfl, rfl⟩ := distinct.eq_of_longer said said' longer follows starts
        obtain ⟨rfl, rfl⟩ := ih later later' follows
        exact ⟨rfl, rfl⟩
      · have starts := fun w => distinct.startsPhrase_of_head? later' ends' (w := w)
        obtain ⟨rfl, rfl⟩ := distinct.eq_of_longer said' said longer follows starts
        obtain ⟨rfl, rfl⟩ := ih later later' follows.symm
        exact ⟨rfl, rfl⟩

theorem trigger_of_longer {c d : Command} {phrase longer : String} {rest after : List String}
    {o : Option Mention} (distinct : Distinct subject cs) (known : c ∈ cs) (known' : d ∈ cs)
    (trigger : phrase ∈ c.phrases) (trigger' : longer ∈ d.phrases)
    (own : ∀ m ∈ o, ∃ slot ∈ c.directObject, slot.Mentions m)
    (longer_eq : Text.words longer = Text.words phrase ++ rest)
    (follows : (o.map (·.words)).getD [] = rest ++ after) : rest = [] := by
  cases rest with
  | nil => rfl
  | cons w rest =>
    cases o with
    | none => cases follows
    | some m =>
      obtain ⟨slot, belongs, mentions⟩ := own m rfl
      have first : w ∈ m.words.head? := by
        rw [Option.map_some, Option.getD_some] at follows
        rw [follows]
        rfl
      have starts : Text.words phrase ++ [w] <+: Text.words longer := by
        rw [longer_eq]
        simp
      exact absurd starts (distinct.extensions c known slot belongs phrase trigger d known' longer
        trigger' m mentions w first)

theorem directObject_unique {c : Command} {o o' : Option Mention}
    (distinct : Distinct subject cs) (known : c ∈ cs)
    (own : ∀ m ∈ o, ∃ slot ∈ c.directObject, slot.Mentions m)
    (own' : ∀ m ∈ o', ∃ slot ∈ c.directObject, slot.Mentions m)
    (same : (o.map (·.words)).getD [] = (o'.map (·.words)).getD []) : o = o' := by
  have filled {m : Mention} (own : ∃ slot ∈ c.directObject, slot.Mentions m) : m.words ≠ [] := by
    obtain ⟨slot, belongs, mentions⟩ := own
    exact (distinct.directObjects c known slot belongs m m mentions mentions).1
  cases o with
  | none =>
    cases o' with
    | none => rfl
    | some n => exact absurd same.symm (filled (own' n rfl))
  | some m =>
    cases o' with
    | none => exact absurd same (filled (own m rfl))
    | some n =>
      obtain ⟨slot, belongs, mentions⟩ := own m rfl
      obtain ⟨slot', belongs', mentions'⟩ := own' n rfl
      obtain rfl := Option.mem_unique belongs belongs'
      exact congrArg some
        ((distinct.directObjects c known slot belongs m n mentions mentions').2 same)

end Distinct

namespace Spoken.Utters

variable {s t : Spoken} {subject : Slot} {cs : List Command} {c : Command} {phrase : String}

theorem own (utters : s.Utters subject cs) (said : s.command = some (c, phrase)) :
    ∀ m ∈ s.directObject, ∃ slot ∈ c.directObject, slot.Mentions m := by
  intro m spoken
  obtain ⟨d, other, same, own⟩ := utters.directObject m spoken
  obtain ⟨rfl, rfl⟩ := Prod.mk.inj (Option.some.inj (said.symm.trans same))
  exact own

theorem bare (utters : s.Utters subject cs) (uncommanded : s.command = none) :
    s.directObject = none := by
  rw [Option.eq_none_iff_forall_not_mem]
  intro m spoken
  obtain ⟨c, phrase, same, _⟩ := utters.directObject m spoken
  rw [uncommanded] at same
  cases same

theorem ends (utters : s.Utters subject cs) (distinct : Distinct subject cs) :
    Distinct.Ends cs ((s.command.map fun c => Text.words c.2).getD []
      ++ (s.directObject.map (·.words)).getD []) := by
  intro w first
  cases said : s.command with
  | none =>
    rw [said, utters.bare said] at first
    cases first
  | some chosen =>
    obtain ⟨c, phrase⟩ := chosen
    obtain ⟨known, trigger⟩ := utters.command c phrase said
    have filled := distinct.triggerWords c known phrase trigger
    rw [said, Option.map_some, Option.getD_some, List.head?_append_of_ne_nil _ filled] at first
    exact ⟨c, known, phrase, trigger, first⟩

/-- The words tell the subjects, the words of the trigger phrase and, once it is known which command
has that phrase, the direct object. -/
theorem unique (utters : s.Utters subject cs) (utters' : t.Utters subject cs)
    (distinct : Distinct subject cs) (same : s.words = t.words) :
    s.subjects = t.subjects ∧
    (s.command.map fun c => Text.words c.2) = (t.command.map fun c => Text.words c.2) ∧
    (s.command.map (·.1) = t.command.map (·.1) → s.directObject = t.directObject) := by
  obtain ⟨subjects, rest⟩ := distinct.subjects_unique utters.subjects utters'.subjects
    (utters.ends distinct) (utters'.ends distinct) same
  refine ⟨subjects, ?_⟩
  have filled {c : Command} {phrase : String} {after : List String} (known : c ∈ cs)
      (trigger : phrase ∈ c.phrases) : Text.words phrase ++ after ≠ [] :=
    List.append_ne_nil_of_left_ne_nil (distinct.triggerWords c known phrase trigger) after
  cases said : s.command with
  | none =>
    cases said' : t.command with
    | none => exact ⟨rfl, fun _ => by rw [utters.bare said, utters'.bare said']⟩
    | some chosen' =>
      obtain ⟨known', trigger'⟩ := utters'.command chosen'.1 chosen'.2 said'
      rw [said, said', utters.bare said] at rest
      exact absurd rest.symm (filled known' trigger')
  | some chosen =>
    obtain ⟨known, trigger⟩ := utters.command chosen.1 chosen.2 said
    cases said' : t.command with
    | none =>
      rw [said, said', utters'.bare said'] at rest
      exact absurd rest (filled known trigger)
    | some chosen' =>
      obtain ⟨known', trigger'⟩ := utters'.command chosen'.1 chosen'.2 said'
      rw [said, said'] at rest
      have words : Text.words chosen.2 = Text.words chosen'.2 ∧
          (s.directObject.map (·.words)).getD [] = (t.directObject.map (·.words)).getD [] := by
        rcases List.append_eq_append_iff.mp rest with
          ⟨more, longer, follows⟩ | ⟨more, longer, follows⟩
        · obtain rfl := distinct.trigger_of_longer known known' trigger trigger' (utters.own said)
            longer follows
          exact ⟨by simpa using longer.symm, follows⟩
        · obtain rfl := distinct.trigger_of_longer known' known trigger' trigger (utters'.own said')
            longer follows
          exact ⟨by simpa using longer, follows.symm⟩
      refine ⟨congrArg some words.1, ?_⟩
      intro command
      have command : chosen.1 = chosen'.1 := Option.some.inj command
      exact distinct.directObject_unique known (utters.own said) (command ▸ utters'.own said')
        words.2

theorem keys_eq (utters : t.Utters subject cs) (utters' : s.Utters subject cs)
    (distinct : Distinct subject cs) (same : t.words = s.words)
    (own : ∀ c phrase, s.command = some (c, phrase) → ∀ d other, t.command = some (d, other) →
      Text.words other = Text.words phrase → d = c) : t.keys = s.keys := by
  obtain ⟨subjects, triggers, directObject⟩ := utters.unique utters' distinct same
  have command : t.command.map (·.1) = s.command.map (·.1) := by
    cases said : s.command with
    | none =>
      rw [said, Option.map_none, Option.map_eq_none_iff] at triggers
      rw [triggers, Option.map_none]
    | some chosen =>
      rw [said] at triggers
      obtain ⟨chosen', said', words⟩ := Option.map_eq_some_iff.mp triggers
      have same := own chosen.1 chosen.2 said chosen'.1 chosen'.2 said' words
      rw [said', Option.map_some, Option.map_some, same]
  have commandKeys : t.command.map (·.1.keys) = s.command.map (·.1.keys) := by
    have mapped := congrArg (Option.map Command.keys) command
    rwa [Option.map_map, Option.map_map] at mapped
  unfold Spoken.keys
  rw [subjects, commandKeys, directObject command]

end Spoken.Utters

namespace Spoken.Fits

variable {s : Spoken} {subject : Slot} {cs ds : List Command}

theorem mono (fits : s.Fits subject cs) (more : cs ⊆ ds) : s.Fits subject ds := by
  cases fits with
  | alone names named uncommanded bare => exact .alone names named uncommanded bare
  | order names known orders => exact .order names (more known) orders

theorem words_ne_nil (fits : s.Fits subject cs) (distinct : Distinct subject cs) :
    s.words ≠ [] := by
  cases fits with
  | alone names named uncommanded bare =>
    obtain ⟨m, ms, several⟩ := List.exists_cons_of_ne_nil named
    have filled := distinct.subjectWords m (names.2 m (several ▸ List.mem_cons_self))
    unfold Spoken.words
    rw [several, List.flatMap_cons, List.append_assoc]
    exact List.append_ne_nil_of_left_ne_nil filled _
  | @order names c known orders =>
    obtain ⟨phrase, trigger, said⟩ := orders.trigger
    have filled := distinct.triggerWords c known phrase trigger
    unfold Spoken.words
    rw [said]
    exact List.append_ne_nil_of_right_ne_nil _ (List.append_ne_nil_of_left_ne_nil filled _)

end Spoken.Fits

namespace Assembler.Records

variable {a : Assembler} {subject : Slot} {cs before after : List Command} {s : Spoken}

theorem assignments?_of_fits (h : a.Records subject (before ++ after))
    (kind : subject.kind = .subject) (limit : 1 ≤ subject.maxRepeat)
    (suits : ∀ c ∈ before ++ after, c.Suits subject) (fits : s.Fits subject before)
    (spoken : s.words ≠ []) :
    ∃ t : Spoken, t.Fits subject before ∧ t.words = s.words ∧
      a.grammar.assignments? s.words = some t.assigned := by
  have derives {entries : List (String × String)} : a.grammar.Derives Grammar.maxNesting
      (.oneOf (subject.reference.mention :: before.map (·.alternative))) s.words entries ↔
      ∃ t : Spoken, t.Fits subject before ∧ s.words = t.words ∧ entries = t.assigned :=
    h.derives_iff (List.subset_append_left before after) kind limit
      fun c known => suits c (List.mem_append_left after known)
  obtain ⟨q, first⟩ := Option.isSome_iff_exists.mp
    (Grammar.find?_paths_isSome (derives.mpr ⟨s, fits, rfl, rfl⟩))
  obtain ⟨t, fits', words, assigned⟩ := derives.mp (Grammar.derives_of_find?_paths first)
  have alternatives : a.alternatives =
      (subject.reference.mention :: before.map (·.alternative)) ++ after.map (·.alternative) := by
    rw [h.alternatives, List.map_append, List.cons_append]
  refine ⟨t, fits', words.symm, ?_⟩
  simp only [Element.paths] at first
  rw [h.assignments?_eq spoken, alternatives, Element.pathsOfAny_append, List.find?_append, first,
    Option.some_or, Option.map_some, assigned]

/-- An utterance whose trigger phrase belongs to no earlier command is understood as just what was
said, and sends its keys. -/
theorem interpret_text (h : a.Records subject (before ++ after)) (built : subject.Built)
    (kind : subject.kind = .subject) (suits : ∀ c ∈ before ++ after, c.Suits subject)
    (plain : subject.Plain) (plains : ∀ c ∈ before ++ after, c.Plain)
    (distinct : Distinct subject (before ++ after)) (fits : s.Fits subject before)
    (own : ∀ c phrase, s.command = some (c, phrase) →
      ∀ d ∈ before, ∀ other ∈ d.phrases, Text.words other = Text.words phrase → d = c) :
    ∃ r, a.grammar.interpret s.text = some r ∧ a.registry.resolve r.order = s.keys := by
  have earlier {t : Spoken} (fits : t.Fits subject before) : t.Fits subject (before ++ after) :=
    fits.mono (List.subset_append_left before after)
  have spoken : s.words ≠ [] := (earlier fits).words_ne_nil distinct
  obtain ⟨t, fits', words, found⟩ :=
    h.assignments?_of_fits kind built.one_le_maxRepeat suits fits spoken
  refine ⟨.ofAssignments t.assigned, ?_, ?_⟩
  · rw [Grammar.interpret, s.words_text, found]
    rfl
  · have keys : t.keys = s.keys := by
      apply (earlier fits').utters.keys_eq (earlier fits).utters distinct words
      intro c phrase said d other said' same
      obtain ⟨known, trigger⟩ := fits'.utters.command d other said'
      exact own c phrase said d known other trigger same
    rw [(earlier fits').order_ofAssignments plain plains,
      h.resolve_order built suits (earlier fits'), keys]

theorem interpret_text_eq_none (h : a.Records subject cs) (built : subject.Built)
    (kind : subject.kind = .subject) (suits : ∀ c ∈ cs, c.Suits subject)
    (distinct : Distinct subject cs) (utters : s.Utters subject cs)
    (excess : subject.maxRepeat < s.subjects.length ∨ s.subjects ≠ [] ∧
      ∃ c phrase, s.command = some (c, phrase) ∧
        ∀ d ∈ cs, ∀ other ∈ d.phrases, Text.words other = Text.words phrase → d.subject = none) :
    a.grammar.interpret s.text = none := by
  rw [← Option.not_isSome_iff_eq_none]
  intro understood
  obtain ⟨_, entries, spelled⟩ := (a.grammar.interpret_isSome_iff s.text).mp understood
  obtain ⟨t, fits, words, _⟩ := (h.spells_iff kind built.one_le_maxRepeat suits).mp spelled
  rw [s.words_text] at words
  obtain ⟨subjects, triggers, _⟩ := fits.utters.unique utters distinct words.symm
  rcases excess with many | ⟨named, c, phrase, said, unaddressed⟩
  · have bound := fits.names.1
    rw [subjects] at bound
    omega
  · rw [said] at triggers
    obtain ⟨⟨d, other⟩, said', same⟩ := Option.map_eq_some_iff.mp triggers
    obtain ⟨known, orders⟩ := fits.known said'
    obtain ⟨_, trigger⟩ := fits.utters.command d other said'
    have addressed := orders.addressed (subjects ▸ named)
    rw [unaddressed d known other trigger same] at addressed
    cases addressed

end Assembler.Records

end Callout
