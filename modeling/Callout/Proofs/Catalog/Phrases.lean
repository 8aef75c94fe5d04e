import Callout.Proofs.Assembler.Ambiguity
import Callout.Proofs.Catalog

namespace Callout.Catalog

theorem words_eq_wording (phrase : String) :
    Text.words phrase = (wording phrase).map String.ofList :=
  rfl

theorem map_ofList_injective : Function.Injective (List.map String.ofList) :=
  List.map_injective_iff.mpr fun _ _ => String.ofList_injective

theorem words_ne_nil {phrase : String} (filled : wording phrase ≠ []) : Text.words phrase ≠ [] := by
  rw [words_eq_wording]
  simpa using filled

theorem mem_head?_words {phrase w : String} :
    w ∈ (Text.words phrase).head? ↔ w.toList ∈ (wording phrase).head? := by
  rw [words_eq_wording, List.head?_map, Option.mem_def, Option.map_eq_some_iff]
  constructor
  · intro first
    obtain ⟨v, first, rfl⟩ := first
    rwa [String.toList_ofList]
  · intro first
    exact ⟨w.toList, first, String.ofList_toList⟩

theorem words_append_prefix_iff {p q w : String} :
    Text.words p ++ [w] <+: Text.words q ↔ wording p ++ [w.toList] <+: wording q := by
  have front : Text.words p ++ [w] = (wording p ++ [w.toList]).map String.ofList := by
    rw [List.map_append, List.map_singleton, String.ofList_toList, words_eq_wording]
  rw [front, words_eq_wording,
    List.prefix_map_iff_of_injective fun _ _ => String.ofList_injective]

def subjectPhrases : List String :=
  (offers subjects).map (·.2)

def triggerPhrases : List String :=
  commands.flatMap (·.phrases)

def code (phrase : String) : Nat :=
  (wording phrase).foldl (fun n w => w.foldl (fun n c => 256 * n + c.toNat) (256 * n)) 0

/-- What tells the phrases of the catalog apart by their words. -/
structure Apart : Prop where
  -- Where a phrase of the units is longer than another, nothing starts with the next word.
  longer : ∀ p ∈ subjectPhrases, ∀ q ∈ subjectPhrases, wording p <+: wording q →
    ∀ w ∈ ((wording q).drop (wording p).length).head?,
      ∀ r ∈ subjectPhrases ++ triggerPhrases, w ∉ (wording r).head?
  triggerWords : ∀ p ∈ triggerPhrases, wording p ≠ []
  unnamed : ∀ p ∈ triggerPhrases, ∀ q ∈ subjectPhrases, (wording p).head? ≠ (wording q).head?
  -- Only `move up` is shared, and the later command that has it is the one to move to a place.
  shared : commands.Pairwise fun d e => ∀ p ∈ d.phrases, ∀ q ∈ e.phrases,
    code p = code q → e.id = "MOVETO" ∧ q = "move up"
  utilities : ∀ d ∈ commands, d.addressed = false → ∀ p ∈ d.phrases,
    ∀ e ∈ commands, ∀ q ∈ e.phrases, wording p = wording q → e.addressed = false
  extensions : ∀ d ∈ commands, ∀ o ∈ d.directObject, ∀ p ∈ d.phrases, ∀ q ∈ triggerPhrases,
    wording p <+: wording q → ∀ m ∈ offers o.tags, ∀ w ∈ (wording m.2).head?,
      ¬ wording p ++ [w] <+: wording q

set_option synthInstance.maxSize 300 in
instance : Decidable Apart :=
  decidable_of_iff (_ ∧ _ ∧ _ ∧ _ ∧ _ ∧ _)
    ⟨fun h => ⟨h.1, h.2.1, h.2.2.1, h.2.2.2.1, h.2.2.2.2.1, h.2.2.2.2.2⟩,
      fun h => ⟨h.longer, h.triggerWords, h.unnamed, h.shared, h.utilities, h.extensions⟩⟩

theorem apart : Apart := by decide +kernel

def mention (m : TagDefinition × String) : Mention :=
  ⟨m.1.entry, Text.trim m.2⟩

theorem words_mention (m : TagDefinition × String) : (mention m).words = Text.words m.2 :=
  Text.words_trim m.2

theorem mentions_iff {s : Slot} {tags : List TagDefinition} {m : Mention}
    (entries : s.entries = tags.map (·.entry)) :
    s.Mentions m ↔ ∃ o ∈ offers tags, mention o = m := by
  unfold Slot.Mentions
  rw [entries]
  constructor
  · intro said
    obtain ⟨e, phrase⟩ := m
    obtain ⟨t, known, rfl⟩ := List.mem_map.mp said.1
    obtain ⟨p, offered, rfl⟩ := List.mem_map.mp said.2
    exact ⟨(t, p), mem_offers.mpr ⟨known, offered⟩, rfl⟩
  · intro offer
    obtain ⟨o, member, rfl⟩ := offer
    obtain ⟨known, offered⟩ := mem_offers.mp member
    exact ⟨List.mem_map_of_mem known, List.mem_map_of_mem offered⟩

theorem mentions_units {maxSubjects : Nat} {m : Mention} :
    (units maxSubjects).Mentions m ↔ ∃ o ∈ offers subjects, mention o = m :=
  mentions_iff rfl

theorem trigger_mem {d : CommandDefinition} {phrase : String} (known : d ∈ commands)
    (trigger : phrase ∈ d.assembled.phrases) :
    ∃ p ∈ d.phrases, p ∈ triggerPhrases ∧ Text.words phrase = Text.words p := by
  obtain ⟨p, offered, rfl⟩ := List.mem_map.mp trigger
  exact ⟨p, offered, List.mem_flatMap.mpr ⟨d, known, offered⟩, Text.words_trim p⟩

theorem subjectPhrase_mem {o : TagDefinition × String} (offered : o ∈ offers subjects) :
    o.2 ∈ subjectPhrases :=
  List.mem_map_of_mem offered

theorem Tellable.mention_inj {tags : List TagDefinition} {m n : TagDefinition × String}
    (tellable : Tellable tags) (offered : m ∈ offers tags) (offered' : n ∈ offers tags)
    (same : wording m.2 = wording n.2) : m = n :=
  List.inj_on_of_nodup_map tellable.wordingsNodup offered offered' same

theorem not_startsPhrase {v : List Char}
    (never : ∀ p ∈ subjectPhrases ++ triggerPhrases, v ∉ (wording p).head?) (maxSubjects : Nat) :
    ¬ StartsPhrase (units maxSubjects) (commands.map (·.assembled)) (.ofList v) := by
  intro starts
  rcases starts with ⟨m, said, first⟩ | ⟨c, known, phrase, trigger, first⟩
  · obtain ⟨o, offered, rfl⟩ := mentions_units.mp said
    rw [words_mention, mem_head?_words, String.toList_ofList] at first
    exact never o.2 (List.mem_append_left _ (subjectPhrase_mem offered)) first
  · obtain ⟨d, listed, rfl⟩ := List.mem_map.mp known
    obtain ⟨p, _, offered, same⟩ := trigger_mem listed trigger
    rw [same, mem_head?_words, String.toList_ofList] at first
    exact never p (List.mem_append_right _ offered) first

theorem distinct (maxSubjects : Nat) :
    Distinct (units maxSubjects) (commands.map (·.assembled)) where
  subjectWords := by
    intro m said
    obtain ⟨o, offered, rfl⟩ := mentions_units.mp said
    rw [words_mention]
    exact words_ne_nil (tellable_subjects.words o offered)
  subjects := by
    intro m n said said' rest longer
    obtain ⟨o, offered, rfl⟩ := mentions_units.mp said
    obtain ⟨o', offered', rfl⟩ := mentions_units.mp said'
    rw [words_mention, words_mention, words_eq_wording, List.map_eq_append_iff] at longer
    obtain ⟨front, others, split, same, rfl⟩ := longer
    obtain rfl : front = wording o.2 := map_ofList_injective same
    cases others with
    | nil =>
      rw [List.append_nil] at split
      obtain rfl := tellable_subjects.mention_inj offered' offered split
      exact .inl ⟨rfl, rfl⟩
    | cons v others =>
      have never : ∀ r ∈ subjectPhrases ++ triggerPhrases, v ∉ (wording r).head? := by
        apply apart.longer o.2 (subjectPhrase_mem offered) o'.2 (subjectPhrase_mem offered')
        · exact ⟨_, split.symm⟩
        · rw [split, List.drop_left]
          rfl
      exact .inr ⟨.ofList v, rfl, not_startsPhrase never maxSubjects⟩
  triggerWords := by
    intro c known phrase trigger
    obtain ⟨d, listed, rfl⟩ := List.mem_map.mp known
    obtain ⟨p, _, offered, same⟩ := trigger_mem listed trigger
    rw [same]
    exact words_ne_nil (apart.triggerWords p offered)
  triggers := by
    intro c known phrase trigger m said w first first'
    obtain ⟨d, listed, rfl⟩ := List.mem_map.mp known
    obtain ⟨p, _, offered, same⟩ := trigger_mem listed trigger
    obtain ⟨o, offered', rfl⟩ := mentions_units.mp said
    rw [same, mem_head?_words] at first
    rw [words_mention, mem_head?_words] at first'
    exact apart.unnamed p offered o.2 (subjectPhrase_mem offered') (first.trans first'.symm)
  extensions := by
    intro c known slot own phrase trigger c' known' phrase' trigger' m said w first starts
    obtain ⟨d, listed, rfl⟩ := List.mem_map.mp known
    obtain ⟨e, listed', rfl⟩ := List.mem_map.mp known'
    obtain ⟨o, present, rfl⟩ := Option.map_eq_some_iff.mp own
    obtain ⟨p, offered, _, same⟩ := trigger_mem listed trigger
    obtain ⟨q, _, offered', same'⟩ := trigger_mem listed' trigger'
    obtain ⟨n, member, rfl⟩ := (mentions_iff rfl).mp said
    rw [words_mention, mem_head?_words] at first
    rw [same, same', words_append_prefix_iff] at starts
    exact apart.extensions d listed o present p offered q offered'
      ((List.prefix_append _ _).trans starts) n member _ first starts
  directObjects := by
    intro c known slot own m n said said'
    obtain ⟨d, listed, rfl⟩ := List.mem_map.mp known
    obtain ⟨o, present, rfl⟩ := Option.map_eq_some_iff.mp own
    obtain ⟨m, offered, rfl⟩ := (mentions_iff rfl).mp said
    obtain ⟨n, offered', rfl⟩ := (mentions_iff rfl).mp said'
    have tellable := tellable_directObject d listed o present
    rw [words_mention, words_mention]
    refine ⟨words_ne_nil (tellable.words m offered), ?_⟩
    intro same
    rw [tellable.mention_inj offered offered' (map_ofList_injective same)]

end Callout.Catalog
