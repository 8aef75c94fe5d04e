import Callout.Proofs.Catalog.Phrases

namespace Callout.Catalog

/-- Phrases, each with the definition that it is chosen from. -/
structure Utterance where
  subjects : List (TagDefinition × String)
  command : Option (CommandDefinition × String)
  directObject : Option (TagDefinition × String)

namespace Utterance

def text (u : Utterance) : String :=
  " ".intercalate (u.subjects.map (·.2) ++
    ((u.command.map (·.2)).toList ++ (u.directObject.map (·.2)).toList))

def keys (u : Utterance) : List Key :=
  u.subjects.flatMap (·.1.keys) ++
    ((u.command.map (·.1.keys)).getD [] ++ (u.directObject.map (·.1.keys)).getD [])

structure Chosen (u : Utterance) : Prop where
  subjects : ∀ m ∈ u.subjects, m.1 ∈ Catalog.subjects ∧ m.2 ∈ m.1.phrases
  command : ∀ c ∈ u.command, c.1 ∈ commands ∧ c.2 ∈ c.1.phrases
  directObject : ∀ m ∈ u.directObject, ∃ c ∈ u.command, ∃ o ∈ c.1.directObject,
    m.1 ∈ o.tags ∧ m.2 ∈ m.1.phrases

/-- There are units or a command, not more units than `maxSubjects` or one, and none before a
command that takes none. The later one of the two commands with the same phrase goes by its others.
-/
structure Allowed (u : Utterance) (maxSubjects : Nat) : Prop where
  said : u.subjects ≠ [] ∨ u.command.isSome
  limit : u.subjects.length ≤ max maxSubjects 1
  addressed : ∀ c ∈ u.command, u.subjects ≠ [] → c.1.addressed = true
  unshared : ∀ c ∈ u.command, ¬ (c.1.id = "MOVETO" ∧ c.2 = "move up")

def spoken (u : Utterance) : Spoken where
  subjects := u.subjects.map mention
  command := u.command.map fun c => (c.1.assembled, Text.trim c.2)
  directObject := u.directObject.map mention

theorem keys_spoken (u : Utterance) : u.spoken.keys = taps u.keys := by
  unfold Spoken.keys spoken keys taps
  rw [List.map_append, List.map_append, List.map_flatMap, List.flatMap_map]
  cases u.command <;> cases u.directObject <;> rfl

theorem words_text (u : Utterance) : Text.words u.text = Text.words u.spoken.text := by
  have trimmed (phrases : List String) :
      (phrases.map Text.trim).flatMap Text.words = phrases.flatMap Text.words := by
    rw [List.flatMap_map]
    exact List.flatMap_congr fun phrase _ => Text.words_trim phrase
  have phrases : u.spoken.phrases = (u.subjects.map (·.2) ++
      ((u.command.map (·.2)).toList ++ (u.directObject.map (·.2)).toList)).map Text.trim := by
    unfold Spoken.phrases spoken
    rw [List.map_append, List.map_append, List.map_map, List.map_map]
    cases u.command <;> cases u.directObject <;> rfl
  rw [text, Spoken.text, Text.words_intercalate, Text.words_intercalate, phrases, trimmed]

variable {u : Utterance} {ds : List CommandDefinition}

theorem command_spoken {d : CommandDefinition} {p : String} (command : u.command = some (d, p)) :
    u.spoken.command = some (d.assembled, Text.trim p) := by
  rw [spoken, command, Option.map_some]

theorem Chosen.mentions (chosen : u.Chosen) (maxSubjects : Nat) :
    ∀ m ∈ u.spoken.subjects, (units maxSubjects).Mentions m := by
  intro m said
  obtain ⟨o, listed, rfl⟩ := List.mem_map.mp said
  exact mentions_units.mpr ⟨o, mem_offers.mpr (chosen.subjects o listed), rfl⟩

theorem Chosen.own (chosen : u.Chosen) : ∀ m ∈ u.spoken.directObject, ∃ c phrase,
    u.spoken.command = some (c, phrase) ∧ ∃ slot ∈ c.directObject, slot.Mentions m := by
  intro m said
  obtain ⟨o, listed, rfl⟩ := Option.map_eq_some_iff.mp said
  obtain ⟨⟨d, p⟩, command, directObject, own, offered⟩ := chosen.directObject o listed
  have owned : directObject.slot ∈ d.assembled.directObject := Option.mem_map_of_mem _ own
  refine ⟨d.assembled, Text.trim p, command_spoken command, directObject.slot, owned, ?_⟩
  exact (mentions_iff rfl).mpr ⟨o, mem_offers.mpr offered, rfl⟩

theorem Chosen.utters (chosen : u.Chosen) (maxSubjects : Nat) :
    u.spoken.Utters (units maxSubjects) (commands.map (·.assembled)) where
  subjects := chosen.mentions maxSubjects
  command := by
    intro c phrase said
    obtain ⟨⟨d, p⟩, command, same⟩ := Option.map_eq_some_iff.mp said
    obtain ⟨rfl, rfl⟩ := Prod.mk.inj same
    obtain ⟨known, trigger⟩ := chosen.command _ command
    exact ⟨List.mem_map_of_mem known, List.mem_map_of_mem trigger⟩
  directObject := chosen.own

theorem Chosen.fits {maxSubjects : Nat} (chosen : u.Chosen) (allowed : u.Allowed maxSubjects)
    (among : ∀ c ∈ u.command, c.1 ∈ ds) :
    u.spoken.Fits (units maxSubjects) (ds.map (·.assembled)) := by
  have names : u.spoken.Names (units maxSubjects) := by
    refine ⟨?_, chosen.mentions maxSubjects⟩
    rw [spoken, List.length_map]
    exact allowed.limit
  cases command : u.command with
  | none =>
    have uncommanded : u.spoken.command = none := by rw [spoken, command, Option.map_none]
    have named : u.subjects ≠ [] := by simpa [command] using allowed.said
    have bare := (chosen.utters maxSubjects).bare uncommanded
    exact .alone names (by simpa [spoken] using named) uncommanded bare
  | some chosen' =>
    obtain ⟨d, p⟩ := chosen'
    have given := command_spoken command
    refine .order names (List.mem_map_of_mem (among _ command)) ⟨?_, ?_, ?_⟩
    · exact ⟨_, List.mem_map_of_mem (chosen.command _ command).2, given⟩
    · intro named
      have takes : d.addressed = true := allowed.addressed _ command (by simpa [spoken] using named)
      simp [CommandDefinition.assembled, Command.new, takes]
    · exact (chosen.utters maxSubjects).own given

end Utterance

theorem eq_of_trigger {pre post : List CommandDefinition} {d e : CommandDefinition} {p q : String}
    (split : commands = pre ++ d :: post) (trigger : p ∈ d.phrases)
    (unshared : ¬ (d.id = "MOVETO" ∧ p = "move up")) (before : e ∈ pre ++ [d])
    (trigger' : q ∈ e.phrases) (same : wording q = wording p) : e = d := by
  rcases List.mem_append.mp before with earlier | last
  · have shared := apart.shared
    rw [split, List.pairwise_append] at shared
    have alike : code q = code p := by rw [code, code, same]
    have moveUp := shared.2.2 e earlier d List.mem_cons_self q trigger' p trigger alike
    exact absurd moveUp unshared
  · exact List.mem_singleton.mp last

theorem isFragment_subject : ∀ t ∈ subjects, IsFragment t.tag := by decide +kernel

theorem isFragment_id : ∀ d ∈ commands, IsFragment d.id := by decide +kernel

theorem isFragment_directObject :
    ∀ d ∈ commands, ∀ o ∈ d.directObject, ∀ t ∈ o.tags, IsFragment t.tag := by
  decide +kernel

theorem units_plain (maxSubjects : Nat) : (units maxSubjects).Plain := by
  intro e member
  obtain ⟨t, known, rfl⟩ := List.mem_map.mp member
  exact isFragment_subject t known

theorem assembled_plain : ∀ c ∈ commands.map (·.assembled), c.Plain := by
  intro c known
  obtain ⟨d, listed, rfl⟩ := List.mem_map.mp known
  refine ⟨isFragment_id d listed, ?_⟩
  intro slot own e member
  obtain ⟨o, present, rfl⟩ := Option.map_eq_some_iff.mp own
  obtain ⟨t, tagged, rfl⟩ := List.mem_map.mp member
  exact isFragment_directObject d listed o present t tagged

theorem suits_of_mem {maxSubjects : Nat} :
    ∀ c ∈ commands.map (·.assembled), c.Suits (units maxSubjects) := by
  intro c known
  obtain ⟨d, listed, rfl⟩ := List.mem_map.mp known
  exact assembled_suits listed maxSubjects

variable {a : Assembler} {maxSubjects : Nat} {u : Utterance}

theorem interpret_spoken (g : Grammar) (u : Utterance) :
    g.interpret u.spoken.text = g.interpret u.text := by
  rw [Grammar.interpret, Grammar.interpret, u.words_text]

theorem interpret_of_allowed (h : a.Records (units maxSubjects) (commands.map (·.assembled)))
    (chosen : u.Chosen) (allowed : u.Allowed maxSubjects) :
    ∃ r, a.grammar.interpret u.text = some r ∧ a.registry.resolve r.order = taps u.keys := by
  -- Earlier commands are preferred, so those up to the one that is given decide.
  obtain ⟨before, after, split, among, own⟩ : ∃ before after, commands = before ++ after ∧
      (∀ c ∈ u.command, c.1 ∈ before) ∧ ∀ c ∈ u.command, ∀ e ∈ before, ∀ q ∈ e.phrases,
        wording q = wording c.2 → e = c.1 := by
    cases command : u.command with
    | none => exact ⟨commands, [], (List.append_nil commands).symm, nofun, nofun⟩
    | some given =>
      obtain ⟨known, trigger⟩ := chosen.command given command
      obtain ⟨pre, post, split⟩ := List.append_of_mem known
      refine ⟨pre ++ [given.1], post, by simpa using split, by simp, ?_⟩
      intro c same e before q trigger' alike
      obtain rfl := Option.some.inj same
      exact eq_of_trigger split trigger (allowed.unshared _ command) before trigger' alike
  have all : before.map (·.assembled) ++ after.map (·.assembled) = commands.map (·.assembled) := by
    rw [← List.map_append, ← split]
  have owned : ∀ c phrase, u.spoken.command = some (c, phrase) →
      ∀ d ∈ before.map (·.assembled), ∀ other ∈ d.phrases,
        Text.words other = Text.words phrase → d = c := by
    intro c phrase said d earlier other trigger same
    obtain ⟨⟨d', p⟩, command, given⟩ := Option.map_eq_some_iff.mp said
    obtain ⟨rfl, rfl⟩ := Prod.mk.inj given
    obtain ⟨e, listed, rfl⟩ := List.mem_map.mp earlier
    obtain ⟨q, offered, rfl⟩ := List.mem_map.mp trigger
    rw [Text.words_trim, Text.words_trim] at same
    rw [own _ command e listed q offered (map_ofList_injective same)]
  rw [← interpret_spoken, ← u.keys_spoken]
  rw [← all] at h
  exact h.interpret_text (units_built maxSubjects) rfl (by rw [all]; exact suits_of_mem)
    (units_plain maxSubjects) (by rw [all]; exact assembled_plain)
    (by rw [all]; exact distinct maxSubjects) (chosen.fits allowed among) owned

theorem interpret_of_excess (h : a.Records (units maxSubjects) (commands.map (·.assembled)))
    (chosen : u.Chosen) (excess : max maxSubjects 1 < u.subjects.length ∨
      u.subjects ≠ [] ∧ ∃ c ∈ u.command, c.1.addressed = false) :
    a.grammar.interpret u.text = none := by
  rw [← interpret_spoken]
  apply h.interpret_text_eq_none (units_built maxSubjects) rfl suits_of_mem (distinct maxSubjects)
    (chosen.utters maxSubjects)
  rcases excess with many | ⟨named, ⟨d, p⟩, command, unaddressed⟩
  · refine .inl ?_
    rw [Utterance.spoken, List.length_map]
    exact many
  · refine .inr ⟨by simpa [Utterance.spoken] using named, d.assembled, Text.trim p,
      Utterance.command_spoken command, ?_⟩
    intro c known other trigger same
    obtain ⟨e, listed, rfl⟩ := List.mem_map.mp known
    obtain ⟨q, offered, rfl⟩ := List.mem_map.mp trigger
    rw [Text.words_trim, Text.words_trim] at same
    obtain ⟨given, trigger'⟩ := chosen.command _ command
    have utility := apart.utilities d given unaddressed p trigger' e listed q offered
      (map_ofList_injective same.symm)
    simp [CommandDefinition.assembled, Command.new, utility]

/-- The built-in grammar understands whatever is chosen from the catalog, as long as there are not
too many units, and the registry sends just the keys of it. -/
theorem interpret_assemble (culture : String) (maxSubjects : Nat) :
    ∃ grammar registry, assemble culture maxSubjects = .ok (grammar, registry) ∧
      ∀ u : Utterance, u.Chosen →
        (u.Allowed maxSubjects →
          ∃ r, grammar.interpret u.text = some r ∧
            registry.resolve r.order = u.keys.map fun key => ⟨key, .pressAndRelease, 0⟩) ∧
        (max maxSubjects 1 < u.subjects.length ∨
            u.subjects ≠ [] ∧ (∃ c ∈ u.command, c.1.addressed = false) →
          grammar.interpret u.text = none) := by
  obtain ⟨a, records, assembled⟩ := assemble_eq culture maxSubjects
  refine ⟨a.grammar, a.registry, assembled, ?_⟩
  intro u chosen
  exact ⟨interpret_of_allowed records chosen, interpret_of_excess records chosen⟩

def sighting : Utterance where
  subjects :=
    [(⟨"ALL", ["all", "all units", "everyone", "everybody", "squad"], [.grave]⟩, "all units"),
     (⟨"ONE", ["one", "unit one"], [.f1]⟩, "one")]
  command :=
    some (orderWith "WATCH" ["watch", "watch the"] [.three, .eight] directions, "watch the")
  directObject := some (⟨"NORTHEAST", ["north east"], [.two]⟩, "north east")

theorem sighting_chosen : sighting.Chosen where
  subjects := by decide +kernel
  command := by decide +kernel
  directObject := by decide +kernel

def mapped : Utterance :=
  { sighting with
    command := some (utility "MAP"
      ["map", "toggle map", "show map", "hide map", "open map", "close map"] [.m], "map")
    directObject := none }

theorem mapped_chosen : mapped.Chosen where
  subjects := by decide +kernel
  command := by decide +kernel
  directObject := by decide

theorem interpret_assemble_sighting :
    ∃ grammar registry, assemble "en-US" 2 = .ok (grammar, registry) ∧
      (∃ r, grammar.interpret "all units one watch the north east" = some r ∧
        registry.resolve r.order =
          [⟨.grave, .pressAndRelease, 0⟩, ⟨.f1, .pressAndRelease, 0⟩,
            ⟨.three, .pressAndRelease, 0⟩, ⟨.eight, .pressAndRelease, 0⟩,
            ⟨.two, .pressAndRelease, 0⟩]) ∧
      grammar.interpret "all units one map" = none := by
  obtain ⟨grammar, registry, assembled, understands⟩ := interpret_assemble "en-US" 2
  have allowed : sighting.Allowed 2 :=
    ⟨by decide, by decide, by decide +kernel, by decide +kernel⟩
  have text : sighting.text = "all units one watch the north east" := by decide +kernel
  have text' : mapped.text = "all units one map" := by decide +kernel
  have understood := (understands sighting sighting_chosen).1 allowed
  have refused := (understands mapped mapped_chosen).2 (.inr ⟨by decide, by decide +kernel⟩)
  rw [text] at understood
  rw [text'] at refused
  exact ⟨grammar, registry, assembled, understood, refused⟩

end Callout.Catalog
