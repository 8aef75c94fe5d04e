import Callout.Proofs.Lookup
import Callout.Slot

namespace Callout

def SlotEntry.trimmed (e : SlotEntry) : SlotEntry :=
  { e with phrases := e.phrases.map Text.trim }

namespace Slot

variable {s t : Slot} {taken phrases : List String} {phrase tag : String}
  {keys : List KeyOperation} {e : SlotEntry}

def folded (phrase : String) : List Char :=
  phrase.toList.map Char.toLower

theorem any_samePhrase :
    taken.any (samePhrase phrase) = true ↔ folded phrase ∈ taken.map folded := by
  rw [List.any_eq_true, List.mem_map]
  refine exists_congr fun other => and_congr_right fun _ => ?_
  rw [samePhrase, beq_iff_eq]
  exact eq_comm

/-- The phrases differ from those taken, and from one another, in more than the case of ASCII
letters and the white space around them. -/
def Fresh (taken phrases : List String) : Prop :=
  ((phrases.map Text.trim).map folded).Nodup ∧
    ∀ phrase ∈ phrases, folded (Text.trim phrase) ∉ taken.map folded

theorem fresh_cons :
    Fresh taken (phrase :: phrases) ↔ folded (Text.trim phrase) ∉ taken.map folded ∧
      Fresh (Text.trim phrase :: taken) phrases := by
  unfold Fresh
  rw [List.map_cons, List.map_cons, List.map_cons, List.nodup_cons, List.forall_mem_cons]
  have apart_iff : folded (Text.trim phrase) ∉ (phrases.map Text.trim).map folded ↔
      ∀ p ∈ phrases, folded (Text.trim p) ≠ folded (Text.trim phrase) := by
    simp
  rw [apart_iff]
  simp only [List.mem_cons, not_or]
  constructor
  · intro fresh
    obtain ⟨⟨apart, nodup⟩, first, others⟩ := fresh
    exact ⟨first, nodup, fun p member => ⟨apart p member, others p member⟩⟩
  · intro fresh
    obtain ⟨first, nodup, others⟩ := fresh
    exact ⟨⟨fun p member => (others p member).1, nodup⟩, first, fun p member => (others p member).2⟩

theorem nodup_append_trim :
    ((taken ++ phrases.map Text.trim).map folded).Nodup ↔
      (taken.map folded).Nodup ∧ Fresh taken phrases := by
  rw [List.map_append, List.nodup_append', Fresh, List.disjoint_right]
  simp only [List.forall_mem_map]

theorem acceptPhrases_of_fresh (fresh : Fresh taken phrases) :
    acceptPhrases taken phrases = .ok (phrases.map Text.trim) := by
  induction phrases generalizing taken with
  | nil => rfl
  | cons phrase phrases ih =>
    obtain ⟨first, others⟩ := fresh_cons.mp fresh
    rw [acceptPhrases, if_neg (any_samePhrase.not.mpr first), ih others]
    rfl

def FirstTaken (taken phrases : List String) (phrase : String) : Prop :=
  ∃ before original after, phrases = before ++ original :: after ∧ phrase = Text.trim original ∧
    folded phrase ∈ (taken ++ before.map Text.trim).map folded ∧ Fresh taken before

theorem map_folded_perm (taken before : List String) (phrase : String) :
    ((taken ++ (phrase :: before).map Text.trim).map folded).Perm
      ((Text.trim phrase :: taken ++ before.map Text.trim).map folded) :=
  List.perm_middle.map folded

theorem exists_firstTaken (clash : ¬ Fresh taken phrases) :
    ∃ phrase, FirstTaken taken phrases phrase := by
  induction phrases generalizing taken with
  | nil => exact absurd ⟨List.nodup_nil, nofun⟩ clash
  | cons p phrases ih =>
    by_cases unused : folded (Text.trim p) ∈ taken.map folded
    · exact ⟨_, [], p, phrases, rfl, rfl, by simpa using unused, List.nodup_nil, nofun⟩
    · rw [fresh_cons, not_and] at clash
      obtain ⟨_, before, original, after, rfl, rfl, same, fresh⟩ := ih (clash unused)
      refine ⟨_, p :: before, original, after, rfl, rfl, ?_, fresh_cons.mpr ⟨unused, fresh⟩⟩
      exact (map_folded_perm taken before p).mem_iff.mpr same

theorem acceptPhrases_of_firstTaken (first : FirstTaken taken phrases phrase) :
    acceptPhrases taken phrases = .error phrase := by
  obtain ⟨before, original, after, rfl, rfl, same, fresh⟩ := first
  induction before generalizing taken with
  | nil =>
    rw [List.map_nil, List.append_nil] at same
    rw [List.nil_append, acceptPhrases, if_pos (any_samePhrase.mpr same)]
  | cons p before ih =>
    obtain ⟨unused, fresh⟩ := fresh_cons.mp fresh
    have later := ih ((map_folded_perm taken before p).mem_iff.mp same) fresh
    rw [List.cons_append, acceptPhrases, if_neg (any_samePhrase.not.mpr unused), later]
    rfl

theorem FirstTaken.not_fresh (first : FirstTaken taken phrases phrase) : ¬ Fresh taken phrases := by
  intro fresh
  have refused := acceptPhrases_of_firstTaken first
  rw [acceptPhrases_of_fresh fresh] at refused
  cases refused

theorem FirstTaken.eq {other : String} (first : FirstTaken taken phrases phrase)
    (first' : FirstTaken taken phrases other) : phrase = other :=
  Except.error.inj
    ((acceptPhrases_of_firstTaken first).symm.trans (acceptPhrases_of_firstTaken first'))

theorem any_tag : s.entries.any (·.tag == tag) = true ↔ tag ∈ s.entries.map (·.tag) := by
  rw [List.any_eq_true, List.mem_map]
  simp only [beq_iff_eq]

theorem addEntry_of_known (used : tag ∈ s.entries.map (·.tag)) :
    s.addEntry phrases tag keys = .error (.duplicateTag s.name tag) :=
  if_pos (any_tag.mpr used)

theorem addEntry_of_firstTaken (unused : tag ∉ s.entries.map (·.tag))
    (first : FirstTaken s.phrases phrases phrase) :
    s.addEntry phrases tag keys = .error (.duplicatePhrase s.name phrase) := by
  rw [addEntry, if_neg (any_tag.not.mpr unused), acceptPhrases_of_firstTaken first]

theorem addEntry_of_fresh (unused : tag ∉ s.entries.map (·.tag))
    (fresh : Fresh s.phrases phrases) :
    s.addEntry phrases tag keys =
      .ok { s with entries := s.entries ++ [⟨phrases.map Text.trim, tag, keys⟩] } := by
  rw [addEntry, if_neg (any_tag.not.mpr unused), acceptPhrases_of_fresh fresh]

/-- The answers to a further entry: its tag counts first, then its phrases in their order. -/
structure Admits (s : Slot) (known : List SlotEntry) (e : SlotEntry) : Prop where
  duplicateTag : ∀ slot tag, s.addEntry e.phrases e.tag e.keys = .error (.duplicateTag slot tag) ↔
    slot = s.name ∧ tag = e.tag ∧ e.tag ∈ known.map (·.tag)
  duplicatePhrase : ∀ slot phrase,
    s.addEntry e.phrases e.tag e.keys = .error (.duplicatePhrase slot phrase) ↔
      slot = s.name ∧ e.tag ∉ known.map (·.tag) ∧
        FirstTaken (known.flatMap (·.phrases)) e.phrases phrase
  accepted : ∀ t, s.addEntry e.phrases e.tag e.keys = .ok t ↔
    e.tag ∉ known.map (·.tag) ∧ Fresh (known.flatMap (·.phrases)) e.phrases ∧
      t = { s with entries := s.entries ++ [e.trimmed] }

theorem admits (s : Slot) (e : SlotEntry) : s.Admits s.entries e := by
  -- The cases are those of `addEntry`, which looks at the tag before it looks at the phrases.
  by_cases used : e.tag ∈ s.entries.map (·.tag)
  · have refused : s.addEntry e.phrases e.tag e.keys = .error (.duplicateTag s.name e.tag) :=
      addEntry_of_known used
    exact ⟨by simp [refused, used, eq_comm], by simp [refused, used], by simp [refused, used]⟩
  · by_cases fresh : Fresh s.phrases e.phrases
    · have added : s.addEntry e.phrases e.tag e.keys =
          .ok { s with entries := s.entries ++ [e.trimmed] } :=
        addEntry_of_fresh used fresh
      refine ⟨by simp [added, used], ?_, ?_⟩
      · intro slot phrase
        rw [added]
        constructor
        · nofun
        · intro clash
          exact absurd fresh clash.2.2.not_fresh
      · intro t
        rw [added, Except.ok.injEq]
        exact ⟨fun same => ⟨used, fresh, same.symm⟩, fun known => known.2.2.symm⟩
    · obtain ⟨phrase, first⟩ := exists_firstTaken fresh
      have refused : s.addEntry e.phrases e.tag e.keys = .error (.duplicatePhrase s.name phrase) :=
        addEntry_of_firstTaken used first
      refine ⟨by simp [refused, used], ?_, ?_⟩
      · intro slot other
        simp only [refused, Except.error.injEq, Error.duplicatePhrase.injEq]
        constructor
        · rintro ⟨rfl, rfl⟩
          exact ⟨rfl, used, first⟩
        · intro known
          exact ⟨known.1.symm, first.eq known.2.2⟩
      · intro t
        rw [refused]
        constructor
        · nofun
        · intro known
          exact absurd known.2.1 fresh

theorem addEntry_eq_ok_iff : s.addEntry phrases tag keys = .ok t ↔
    tag ∉ s.entries.map (·.tag) ∧ Fresh s.phrases phrases ∧
      t = { s with entries := s.entries ++ [⟨phrases.map Text.trim, tag, keys⟩] } :=
  (s.admits ⟨phrases, tag, keys⟩).accepted t

/-- No two entries share a tag, and no two phrases differ in the case of ASCII letters only. -/
structure Unique (s : Slot) : Prop where
  tags : (s.entries.map (·.tag)).Nodup
  phrases : (s.phrases.map folded).Nodup

theorem unique_of_new (new : s.entries = []) : s.Unique := by
  constructor
  · rw [new]
    exact List.nodup_nil
  · rw [Slot.phrases, new]
    exact List.nodup_nil

theorem Unique.addEntry (unique : s.Unique)
    (added : s.addEntry e.phrases e.tag e.keys = .ok t) : t.Unique := by
  obtain ⟨unused, fresh, rfl⟩ := addEntry_eq_ok_iff.mp added
  constructor
  · rw [List.map_append, List.map_singleton, ← List.concat_eq_append]
    exact unique.tags.concat unused
  · rw [Slot.phrases, List.flatMap_append, List.flatMap_singleton]
    exact nodup_append_trim.mpr ⟨unique.phrases, fresh⟩

/-- The slots that there are: new ones, and others with entries added. -/
inductive Built : Slot → Prop where
  | subject (name : String) (maxRepeat : Nat) : Built (.subject name maxRepeat)
  | directObject (name : String) : Built (.directObject name)
  | addEntry {s t : Slot} {phrases : List String} {tag : String} {keys : List KeyOperation}
      (built : Built s) (added : s.addEntry phrases tag keys = .ok t) : Built t

theorem Built.unique (built : s.Built) : s.Unique := by
  induction built with
  | subject name maxRepeat => exact unique_of_new rfl
  | directObject name => exact unique_of_new rfl
  | @addEntry s t phrases tag keys _ added ih => exact ih.addEntry (e := ⟨phrases, tag, keys⟩) added

theorem Unique.entryFor?_tag (unique : s.Unique) (member : e ∈ s.entries) :
    s.entryFor? e.tag = some e :=
  find?_of_nodup SlotEntry.tag unique.tags member

theorem entryFor?_of_not_mem {tag : String} (unused : tag ∉ s.entries.map (·.tag)) :
    s.entryFor? tag = none := by
  rw [entryFor?, ← Option.not_isSome_iff_eq_none, find?_isSome_iff]
  exact unused

end Slot

end Callout
