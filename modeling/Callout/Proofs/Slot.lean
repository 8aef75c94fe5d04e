import Callout.Proofs.Grammar.Derivation
import Callout.Proofs.Slot.Addition

namespace Callout

namespace Slot

theorem addEntry_of_nodup {s : Slot} {phrases : List String} {tag : String}
    (keys : List KeyOperation) (fresh : tag ∉ s.entries.map (·.tag))
    (apart : ((s.phrases ++ phrases.map Text.trim).map folded).Nodup) :
    s.addEntry phrases tag keys =
      .ok { s with entries := s.entries ++ [⟨phrases.map Text.trim, tag, keys⟩] } :=
  addEntry_of_fresh fresh (nodup_append_trim.mp apart).2

theorem Built.tags_nodup {s : Slot} (built : s.Built) : (s.entries.map (·.tag)).Nodup :=
  built.unique.tags

theorem Built.one_le_maxRepeat {s : Slot} (built : s.Built) : 1 ≤ s.maxRepeat := by
  induction built with
  | subject name maxRepeat => exact Nat.le_max_right maxRepeat 1
  | directObject name => exact Nat.le_refl 1
  | addEntry _ added ih =>
    obtain ⟨_, _, rfl⟩ := addEntry_eq_ok_iff.mp added
    exact ih

theorem Built.maxRepeat_of_directObject {s : Slot} (built : s.Built)
    (kind : s.kind = .directObject) :
    s.maxRepeat = 1 := by
  induction built with
  | subject name maxRepeat => cases kind
  | directObject name => rfl
  | addEntry _ added ih =>
    obtain ⟨_, _, rfl⟩ := addEntry_eq_ok_iff.mp added
    exact ih kind

theorem Built.keysFor?_tag {s : Slot} (built : s.Built) {e : SlotEntry} (member : e ∈ s.entries) :
    s.keysFor? e.tag = some e.keys := by
  rw [keysFor?, built.unique.entryFor?_tag member]
  rfl

end Slot

structure Mention where
  entry : SlotEntry
  phrase : String

namespace Mention

def words (m : Mention) : List String :=
  Text.words m.phrase

def assigned (field : String) (m : Mention) : String × String :=
  (field, m.entry.tag)

end Mention

def Slot.Mentions (s : Slot) (m : Mention) : Prop :=
  m.entry ∈ s.entries ∧ m.phrase ∈ m.entry.phrases

namespace Grammar

variable {g : Grammar} {n : Nat} {ws : List String} {a : List (String × String)}

theorem derives_phrases {phrases : List String} :
    g.Derives n (.oneOf (phrases.map .phrase)) ws a ↔
      ∃ phrase ∈ phrases, ws = Text.words phrase ∧ a = [] := by
  rw [derives_oneOf]
  constructor
  · intro h
    obtain ⟨e, listed, derived⟩ := h
    obtain ⟨phrase, member, rfl⟩ := List.mem_map.mp listed
    exact ⟨phrase, member, derives_phrase.mp derived⟩
  · intro h
    obtain ⟨phrase, member, spelled⟩ := h
    exact ⟨_, List.mem_map_of_mem member, derives_phrase.mpr spelled⟩

theorem derives_entry {s : Slot} {e : SlotEntry} :
    g.Derives n (s.alternative e) ws a ↔
      ∃ phrase ∈ e.phrases, ws = Text.words phrase ∧ a = [(s.kind.field, e.tag)] := by
  unfold Slot.alternative
  rw [derives_cons]
  constructor
  · intro h
    obtain ⟨vs, us, b, c, rfl, rfl, head, tail⟩ := h
    obtain ⟨phrase, member, rfl, rfl⟩ := derives_phrases.mp head
    obtain ⟨rfl, rfl⟩ := derives_literalTag.mp (derives_singleton.mp tail)
    exact ⟨phrase, member, by simp, rfl⟩
  · intro h
    obtain ⟨phrase, member, rfl, rfl⟩ := h
    refine ⟨Text.words phrase, [], [], _, by simp, rfl, ?_, ?_⟩
    · exact derives_phrases.mpr ⟨phrase, member, rfl, rfl⟩
    · exact derives_singleton.mpr (derives_literalTag.mpr ⟨rfl, rfl⟩)

theorem derives_choice {s : Slot} :
    g.Derives n (.oneOf (s.entries.map s.alternative)) ws a ↔
      ∃ m, s.Mentions m ∧ ws = m.words ∧ a = [m.assigned s.kind.field] := by
  rw [derives_oneOf]
  constructor
  · intro h
    obtain ⟨alternative, listed, derived⟩ := h
    obtain ⟨e, member, rfl⟩ := List.mem_map.mp listed
    obtain ⟨phrase, spoken, rfl, rfl⟩ := derives_entry.mp derived
    exact ⟨⟨e, phrase⟩, ⟨member, spoken⟩, rfl, rfl⟩
  · intro h
    obtain ⟨⟨e, phrase⟩, ⟨member, spoken⟩, rfl, rfl⟩ := h
    exact ⟨_, List.mem_map_of_mem member, derives_entry.mpr ⟨phrase, spoken, rfl, rfl⟩⟩

theorem derives_choices {s : Slot} {k : Nat} :
    g.Derives n (.sequence (List.replicate k (.oneOf (s.entries.map s.alternative)))) ws a ↔
      ∃ ms : List Mention, ms.length = k ∧ (∀ m ∈ ms, s.Mentions m) ∧
        ws = ms.flatMap (·.words) ∧ a = ms.map (·.assigned s.kind.field) := by
  induction k generalizing ws a with
  | zero =>
    rw [List.replicate_zero, derives_nil]
    constructor
    · intro h
      obtain ⟨rfl, rfl⟩ := h
      exact ⟨[], rfl, by simp, rfl, rfl⟩
    · intro h
      obtain ⟨ms, length, _, rfl, rfl⟩ := h
      obtain rfl := List.length_eq_zero_iff.mp length
      exact ⟨rfl, rfl⟩
  | succ k ih =>
    rw [List.replicate_succ, derives_cons]
    constructor
    · intro h
      obtain ⟨vs, us, b, c, rfl, rfl, head, tail⟩ := h
      obtain ⟨m, spoken, rfl, rfl⟩ := derives_choice.mp head
      obtain ⟨ms, rfl, all, rfl, rfl⟩ := ih.mp tail
      exact ⟨m :: ms, rfl, List.forall_mem_cons.mpr ⟨spoken, all⟩, rfl, rfl⟩
    · intro h
      obtain ⟨ms, length, all, rfl, rfl⟩ := h
      obtain ⟨m, ms, rfl⟩ := List.exists_cons_of_length_eq_add_one length
      obtain ⟨spoken, all⟩ := List.forall_mem_cons.mp all
      refine ⟨_, _, [_], _, rfl, rfl, ?_, ?_⟩
      · exact derives_choice.mpr ⟨m, spoken, rfl, rfl⟩
      · exact ih.mpr ⟨ms, Nat.succ.inj length, all, rfl, rfl⟩

/-- The rule of a slot derives the phrases of one or more of its entries, up to the limit. -/
theorem derives_slot {s : Slot} (limit : 1 ≤ s.maxRepeat) :
    g.Derives n s.rule.body ws a ↔
      ∃ ms : List Mention, ms ≠ [] ∧ ms.length ≤ s.maxRepeat ∧ (∀ m ∈ ms, s.Mentions m) ∧
        ws = ms.flatMap (·.words) ∧ a = ms.map (·.assigned s.kind.field) := by
  unfold Slot.rule
  by_cases several : 1 < s.maxRepeat
  · simp only [several, if_true]
    rw [derives_repetition]
    constructor
    · intro h
      obtain ⟨count, least, most, derived⟩ := h
      obtain ⟨ms, rfl, all, rfl, rfl⟩ := derives_choices.mp derived
      exact ⟨ms, List.ne_nil_of_length_pos least, most _ rfl, all, rfl, rfl⟩
    · intro h
      obtain ⟨ms, named, bound, all, rfl, rfl⟩ := h
      refine ⟨ms.length, List.length_pos_iff.mpr named, ?_, ?_⟩
      · intro m same
        obtain rfl := Option.mem_some_iff.mp same
        exact bound
      · exact derives_choices.mpr ⟨ms, rfl, all, rfl, rfl⟩
  · simp only [several, if_false]
    rw [derives_choice]
    constructor
    · intro h
      obtain ⟨m, spoken, rfl, rfl⟩ := h
      exact ⟨[m], by simp, limit, by simpa using spoken, by simp, rfl⟩
    · intro h
      obtain ⟨ms, named, bound, all, rfl, rfl⟩ := h
      have positive := List.length_pos_iff.mpr named
      obtain ⟨m, rfl⟩ := List.length_eq_one_iff.mp (show ms.length = 1 by omega)
      exact ⟨m, all m (by simp), by simp, rfl⟩

theorem derives_mention {r : SlotReference} {rule : Rule} (found : g.rule? r.rule = some rule) :
    g.Derives (n + 1) r.mention ws a ↔ g.Derives n rule.body ws a := by
  unfold SlotReference.mention
  rw [derives_cons]
  constructor
  · intro h
    obtain ⟨vs, us, b, c, rfl, rfl, head, tail⟩ := h
    obtain ⟨rfl, rfl⟩ := derives_ruleTag.mp (derives_singleton.mp tail)
    obtain ⟨m, other, same, found', derived⟩ := derives_ruleRef.mp head
    obtain rfl := Nat.succ.inj same
    obtain rfl := Option.some.inj (found.symm.trans found')
    simpa using derived
  · intro h
    refine ⟨ws, [], a, [], by simp, by simp, .ruleRef found h, ?_⟩
    exact derives_singleton.mpr (derives_ruleTag.mpr ⟨rfl, rfl⟩)

theorem derives_optional {e : Element} :
    g.Derives n e.optional ws a ↔ ws = [] ∧ a = [] ∨ g.Derives n e ws a := by
  unfold Element.optional
  rw [derives_repetition]
  constructor
  · intro h
    obtain ⟨count, _, most, derived⟩ := h
    have bound := most 1 rfl
    have cases : count = 0 ∨ count = 1 := by omega
    rcases cases with rfl | rfl
    · exact .inl (derives_nil.mp derived)
    · exact .inr (derives_singleton.mp derived)
  · intro h
    rcases h with h | h
    · exact ⟨0, by simp, by simp, derives_nil.mpr h⟩
    · exact ⟨1, by simp, by simp, derives_singleton.mpr h⟩

theorem derives_reference {s : Slot} (limit : 1 ≤ s.maxRepeat)
    (found : g.rule? s.name = some s.rule) :
    g.Derives (n + 1) s.reference.element ws a ↔
      ∃ ms : List Mention, ms.length ≤ s.maxRepeat ∧ (∀ m ∈ ms, s.Mentions m) ∧
        ws = ms.flatMap (·.words) ∧ a = ms.map (·.assigned s.kind.field) := by
  have mention : g.Derives (n + 1) s.reference.mention ws a ↔ g.Derives n s.rule.body ws a :=
    derives_mention found
  unfold SlotReference.element
  rw [derives_optional, mention, derives_slot limit]
  constructor
  · intro h
    rcases h with ⟨rfl, rfl⟩ | ⟨ms, _, spoken⟩
    · exact ⟨[], Nat.zero_le _, by simp, rfl, rfl⟩
    · exact ⟨ms, spoken⟩
  · intro h
    obtain ⟨ms, bound, all, rfl, rfl⟩ := h
    by_cases empty : ms = []
    · subst empty
      exact .inl ⟨rfl, rfl⟩
    · exact .inr ⟨ms, empty, bound, all, rfl, rfl⟩

end Grammar

end Callout
