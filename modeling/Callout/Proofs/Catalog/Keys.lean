import Callout.Proofs.Catalog.Utterance
import Callout.Proofs.Registry.Run

namespace Callout.Catalog

def tagKeys (tags : List TagDefinition) (tag : String) : List Key :=
  (tags.find? (·.tag == tag)).toList.flatMap (·.keys)

def tagged (tags : List TagDefinition) (tag : String) : Bool :=
  tags.any (·.tag == tag)

def CommandDefinition.directObjectTags (d : CommandDefinition) : List TagDefinition :=
  (d.directObject.map (·.tags)).getD []

variable {tags : List TagDefinition} {tag : String} {d : CommandDefinition} {maxSubjects : Nat}
  {r : Registry} {o : Order}

theorem tagKeys_of_untagged (untagged : tagged tags tag = false) : tagKeys tags tag = [] := by
  have missing : tags.find? (·.tag == tag) = none := by
    rw [List.find?_eq_none]
    simpa [tagged] using untagged
  rw [tagKeys, missing]
  rfl

theorem isFragment_of_tagged (plain : ∀ t ∈ tags, IsFragment t.tag)
    (known : tagged tags tag = true) : IsFragment tag := by
  obtain ⟨t, member, same⟩ := List.any_eq_true.mp known
  rw [← beq_iff_eq.mp same]
  exact plain t member

theorem tagKeys_of_empty (plain : ∀ t ∈ tags, IsFragment t.tag)
    (empty : decide (tag ≠ "") = false) : tagKeys tags tag = [] := by
  apply tagKeys_of_untagged
  rw [← Bool.not_eq_true]
  intro known
  have filled := (isFragment_of_tagged plain known).1
  exact of_decide_eq_false empty filled

theorem isFragment_directObjectTags (known : d ∈ commands) :
    ∀ t ∈ d.directObjectTags, IsFragment t.tag := by
  unfold CommandDefinition.directObjectTags
  cases own : d.directObject with
  | none => exact nofun
  | some o => exact isFragment_directObject d known o own

theorem tagKeys_slot {s : Slot} (entries : s.entries = tags.map (·.entry)) (tag : String) :
    s.tagKeys tag = taps (tagKeys tags tag) := by
  unfold Slot.tagKeys Slot.entryFor? tagKeys
  rw [entries, List.find?_map]
  have same : ((fun e : SlotEntry => e.tag == tag) ∘ TagDefinition.entry) = (·.tag == tag) := rfl
  rw [same]
  cases tags.find? (·.tag == tag) with
  | none => rfl
  | some t => simp [TagDefinition.entry]

theorem taps_append (keys others : List Key) : taps (keys ++ others) = taps keys ++ taps others :=
  List.map_append

theorem taps_flatMap {α : Type} (l : List α) (f : α → List Key) :
    taps (l.flatMap f) = l.flatMap fun x => taps (f x) :=
  List.map_flatMap

/-- The keys of an order for a built-in command, by the definitions. -/
theorem resolve_of_lists (lists : r.Lists (units maxSubjects) (commands.map (·.assembled)))
    (known : d ∈ commands) (command : o.command = some d.id) :
    r.resolve o = taps ((o.subjects.getD []).flatMap (tagKeys subjects) ++
      (d.keys ++ o.directObject.toList.flatMap (tagKeys d.directObjectTags))) := by
  have built : ∀ c ∈ commands.map (·.assembled), ∀ slot ∈ c.directObject, slot.Built := by
    intro c listed slot own
    have suits : c.Suits (units maxSubjects) := suits_of_mem c listed
    exact (suits.directObject slot own).1
  have found : (commands.map (·.assembled)).find? (·.id == d.id) = some d.assembled :=
    find?_of_nodup Command.id lists.idsNodup (List.mem_map_of_mem known)
  have subjectKeys : (units maxSubjects).tagKeys = fun tag => taps (tagKeys subjects tag) := by
    funext tag
    exact tagKeys_slot rfl tag
  have directObjectKeys (tag : String) :
      d.assembled.directObject.toList.flatMap (·.tagKeys tag) =
        taps (tagKeys d.directObjectTags tag) := by
    unfold CommandDefinition.assembled Command.new CommandDefinition.directObjectTags
    cases d.directObject with
    | none => rfl
    | some directObject =>
      have slot : directObject.slot.tagKeys tag = taps (tagKeys directObject.tags tag) :=
        tagKeys_slot rfl tag
      simpa using slot
  have keys : d.assembled.keys = taps d.keys := rfl
  rw [lists.resolve_eq built, Registry.listedKeys, command, Option.bind_some, found]
  simp only [Option.toList_some, List.flatMap_singleton, subjectKeys, directObjectKeys, keys,
    taps_append, taps_flatMap]

end Callout.Catalog
