import Callout.Proofs.Slot.Addition

namespace Callout

namespace Slot

def addAll (s : Slot) : List SlotEntry → Slot
  | [] => s
  | e :: es =>
    match s.addEntry e.phrases e.tag e.keys with
    | .ok t => t.addAll es
    | .error _ => s.addAll es

def accepted (s : Slot) : List SlotEntry → List SlotEntry
  | [] => []
  | e :: es =>
    match s.addEntry e.phrases e.tag e.keys with
    | .ok t => e :: t.accepted es
    | .error _ => s.accepted es

variable {s : Slot} {known : List SlotEntry}

theorem addAll_append (s : Slot) (es fs : List SlotEntry) :
    s.addAll (es ++ fs) = (s.addAll es).addAll fs := by
  induction es generalizing s with
  | nil => rfl
  | cons e es ih =>
    rw [List.cons_append, addAll, addAll]
    split <;> exact ih _

theorem accepted_append (s : Slot) (es fs : List SlotEntry) :
    s.accepted (es ++ fs) = s.accepted es ++ (s.addAll es).accepted fs := by
  induction es generalizing s with
  | nil => rfl
  | cons e es ih =>
    rw [List.cons_append, accepted, accepted, addAll]
    split
    · rw [ih, List.cons_append]
    · exact ih s

theorem addAll_eq (s : Slot) (es : List SlotEntry) :
    s.addAll es = { s with entries := s.entries ++ (s.accepted es).map (·.trimmed) } := by
  induction es generalizing s with
  | nil => rw [accepted, List.map_nil, List.append_nil, addAll]
  | cons e es ih =>
    unfold addAll accepted
    split
    · rename_i t added
      obtain ⟨_, _, same⟩ := addEntry_eq_ok_iff.mp added
      rw [ih, List.map_cons, List.append_cons, same]
      rfl
    · exact ih s

theorem Unique.addAll (unique : s.Unique) (es : List SlotEntry) : (s.addAll es).Unique := by
  induction es generalizing s with
  | nil => exact unique
  | cons e es ih =>
    unfold Slot.addAll
    split
    · rename_i added
      exact ih (unique.addEntry added)
    · exact ih unique

/-- What a slot that has taken in some entries is like, as entries and in all its answers. -/
structure Stores (s : Slot) (known : List SlotEntry) : Prop where
  entries : s.entries = known.map (·.trimmed)
  tags : (known.map (·.tag)).Nodup
  phrases : (s.phrases.map folded).Nodup
  admits : ∀ e, s.Admits (known.map (·.trimmed)) e
  entryFor : ∀ e ∈ known, s.entryFor e.tag = .ok e.trimmed ∧ s.keysFor? e.tag = some e.keys
  unknown : ∀ tag, tag ∉ known.map (·.tag) →
    s.entryFor tag = .error (.unknownTag s.name tag) ∧ s.keysFor? tag = none

theorem Unique.stores (unique : s.Unique) (same : s.entries = known.map (·.trimmed)) :
    s.Stores known := by
  have tags : s.entries.map (·.tag) = known.map (·.tag) := by
    rw [same, List.map_map]
    rfl
  refine ⟨same, tags ▸ unique.tags, unique.phrases, fun e => same ▸ s.admits e, ?_, ?_⟩
  · intro e member
    have listed : e.trimmed ∈ s.entries := same ▸ List.mem_map_of_mem member
    have found : s.entryFor? e.tag = some e.trimmed := unique.entryFor?_tag listed
    rw [Slot.entryFor, Slot.keysFor?, found]
    exact ⟨rfl, rfl⟩
  · intro tag absent
    have missing := entryFor?_of_not_mem (tags ▸ absent)
    rw [Slot.entryFor, Slot.keysFor?, missing]
    exact ⟨rfl, rfl⟩

/-- Whatever is added, a slot holds just the entries that it accepted, in the order in which they
came; a refused one leaves it as it was, and no later one changes what an entry has become. -/
theorem stores_addAll (new : s.entries = []) (es : List SlotEntry) :
    (s.addAll es).Stores (s.accepted es) ∧
    s.addAll es = { s with entries := (s.accepted es).map (·.trimmed) } ∧
    (∀ e error, (s.addAll es).addEntry e.phrases e.tag e.keys = .error error →
      s.addAll (es ++ [e]) = s.addAll es ∧ s.accepted (es ++ [e]) = s.accepted es) ∧
    (∀ e t, (s.addAll es).addEntry e.phrases e.tag e.keys = .ok t →
      s.addAll (es ++ [e]) = t ∧ s.accepted (es ++ [e]) = s.accepted es ++ [e]) ∧
    ∀ fs, ∀ e ∈ s.accepted es, (s.addAll (es ++ fs)).entryFor e.tag = .ok e.trimmed ∧
      (s.addAll (es ++ fs)).keysFor? e.tag = some e.keys := by
  have whole (es : List SlotEntry) :
      s.addAll es = { s with entries := (s.accepted es).map (·.trimmed) } := by
    rw [addAll_eq, new, List.nil_append]
  have stores (es : List SlotEntry) : (s.addAll es).Stores (s.accepted es) :=
    ((unique_of_new new).addAll es).stores (by rw [whole])
  refine ⟨stores es, whole es, ?_, ?_, ?_⟩
  · intro e error refused
    rw [addAll_append, accepted_append]
    simp only [addAll, accepted, refused, List.append_nil, and_self]
  · intro e t added
    rw [addAll_append, accepted_append]
    simp only [addAll, accepted, added, and_self]
  · intro fs e member
    apply (stores (es ++ fs)).entryFor
    rw [accepted_append]
    exact List.mem_append_left _ member

def colours : List SlotEntry :=
  [⟨["red", " dark red "], "RED", [.tap .one]⟩, ⟨["crimson"], "RED", [.tap .two]⟩,
    ⟨["green", "Dark Red"], "GREEN", [.tap .two]⟩,
    ⟨["Blue", "navy", "blue"], "BLUE", [.tap .three]⟩, ⟨["green"], "GREEN", [.tap .four]⟩]

theorem stores_addAll_colours :
    (directObject "teamDO").entries = [] ∧
    (directObject "teamDO").accepted colours =
      [⟨["red", " dark red "], "RED", [.tap .one]⟩, ⟨["green"], "GREEN", [.tap .four]⟩] ∧
    ((directObject "teamDO").addAll colours).entryFor "RED" =
      .ok ⟨["red", "dark red"], "RED", [.tap .one]⟩ ∧
    ((directObject "teamDO").addAll colours).keysFor? "BLUE" = none := by
  have accepted : (directObject "teamDO").accepted colours =
      [⟨["red", " dark red "], "RED", [.tap .one]⟩, ⟨["green"], "GREEN", [.tap .four]⟩] := by
    decide +kernel
  obtain ⟨stores, _⟩ := stores_addAll (s := directObject "teamDO") rfl colours
  rw [accepted] at stores
  refine ⟨rfl, accepted, (stores.entryFor _ List.mem_cons_self).1, ?_⟩
  exact (stores.unknown "BLUE" (by simp)).2

end Slot

end Callout
