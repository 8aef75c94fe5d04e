import Callout.Proofs.Assembler

namespace Callout

theorem Command.getElem?_directObjectTable {c : Command}
    (nodup : (c.directObjectEntries.map (·.tag)).Nodup) (tag : String) :
    c.directObjectTable[tag]? = (c.directObjectEntries.find? (·.tag == tag)).map (·.keys) := by
  suffices general : ∀ table : Std.HashMap String (List KeyOperation),
      (c.directObjectEntries.foldl (fun table e => table.insert e.tag e.keys) table)[tag]? =
        ((c.directObjectEntries.find? (·.tag == tag)).map (·.keys)).or table[tag]? by
    unfold directObjectTable
    rw [general, Std.HashMap.getElem?_empty, Option.or_none]
  generalize c.directObjectEntries = entries at nodup
  induction entries with
  | nil => simp
  | cons e entries ih =>
    intro table
    rw [List.map_cons, List.nodup_cons] at nodup
    rw [List.foldl_cons, ih nodup.2, Std.HashMap.getElem?_insert]
    by_cases here : e.tag = tag
    · subst here
      have absent : entries.find? (·.tag == e.tag) = none := by
        rw [← Option.not_isSome_iff_eq_none, find?_isSome_iff]
        exact nodup.1
      simp [absent]
    · simp [here]

theorem Command.getElem?_directObjectTable_of_built {c : Command}
    (built : ∀ slot ∈ c.directObject, slot.Built) (tag : String) :
    c.directObjectTable[tag]? = c.directObject.bind (·.keysFor? tag) := by
  cases own : c.directObject with
  | none => simp [directObjectTable, directObjectEntries, own]
  | some slot =>
    have entries : c.directObjectEntries = slot.entries := by
      rw [directObjectEntries, own, Option.map_some, Option.getD_some]
    have nodup : (c.directObjectEntries.map (·.tag)).Nodup := by
      rw [entries]
      exact (built slot own).tags_nodup
    rw [getElem?_directObjectTable nodup, entries]
    rfl

namespace Registry

theorem resolve_congr {r r' : Registry} {o : Order} (subject : r.subject = r'.subject)
    (commands : ∀ id ∈ o.command, r.commands[id]? = r'.commands[id]?) :
    r.resolve o = r'.resolve o := by
  have subjectKeys : r.subjectKeys? = r'.subjectKeys? := by
    funext tag
    rw [subjectKeys?, subjectKeys?, subject]
  unfold resolve
  cases named : o.command with
  | none => simp only [subjectKeys]
  | some id =>
    have same := commands id named
    have commandKeys : r.commandKeys? id = r'.commandKeys? id := by
      rw [commandKeys?, commandKeys?, get?, get?, same]
    have directObjectKeys : r.directObjectKeys? id = r'.directObjectKeys? id := by
      funext tag
      rw [directObjectKeys?, directObjectKeys?, same]
    simp only [subjectKeys, commandKeys, directObjectKeys]

/-- The registry holds just the commands of a list, in its order. -/
structure Lists (r : Registry) (subject : Slot) (cs : List Command) : Prop where
  ownSubject : r.subject = subject
  ids : r.ids = cs.map (·.id)
  commands : ∀ id, r.commands[id]? =
    (cs.find? (·.id == id)).map fun c => ⟨c, c.directObjectTable⟩
  idsNodup : (cs.map (·.id)).Nodup

namespace Lists

variable {r : Registry} {subject : Slot} {cs : List Command} {c : Command}

theorem contains_iff (h : r.Lists subject cs) (id : String) :
    r.contains id = true ↔ id ∈ cs.map (·.id) := by
  rw [contains_eq_isSome, h.commands, Option.isSome_map]
  exact find?_isSome_iff

theorem get?_eq (h : r.Lists subject cs) (id : String) : r.get? id = cs.find? (·.id == id) := by
  unfold get?
  rw [h.commands, Option.map_map]
  exact Option.map_id_apply

theorem commandKeys?_eq (h : r.Lists subject cs) (id : String) :
    r.commandKeys? id = (cs.find? (·.id == id)).map (·.keys) := by
  rw [commandKeys?, h.get?_eq]

theorem subjectKeys?_eq (h : r.Lists subject cs) (tag : String) :
    r.subjectKeys? tag = subject.keysFor? tag := by
  rw [subjectKeys?, h.ownSubject]

theorem directObjectKeys?_eq (h : r.Lists subject cs)
    (built : ∀ c ∈ cs, ∀ slot ∈ c.directObject, slot.Built) (id tag : String) :
    r.directObjectKeys? id tag =
      (cs.find? (·.id == id)).bind fun c => c.directObject.bind (·.keysFor? tag) := by
  unfold directObjectKeys?
  rw [h.commands, Option.bind_map]
  cases found : cs.find? (·.id == id) with
  | none => rfl
  | some c =>
    have known := List.mem_of_find?_eq_some found
    exact Command.getElem?_directObjectTable_of_built (built c known) tag

end Lists

end Registry

namespace Assembler.Records

variable {a : Assembler} {subject : Slot} {cs : List Command} {c : Command}

theorem lists (h : a.Records subject cs) : a.registry.Lists subject cs :=
  ⟨h.registrySubject, h.ids, h.commands, h.idsNodup⟩

theorem get?_eq (h : a.Records subject cs) (id : String) :
    a.registry.get? id = cs.find? (·.id == id) :=
  h.lists.get?_eq id

theorem get?_of_mem (h : a.Records subject cs) (known : c ∈ cs) :
    a.registry.get? c.id = some c := by
  rw [h.get?_eq, find?_of_nodup Command.id h.idsNodup known]

theorem contains_of_mem (h : a.Records subject cs) (known : c ∈ cs) :
    a.registry.contains c.id = true :=
  (h.lists.contains_iff c.id).mpr (List.mem_map_of_mem known)

theorem commandKeys?_of_mem (h : a.Records subject cs) (known : c ∈ cs) :
    a.registry.commandKeys? c.id = some c.keys := by
  rw [Registry.commandKeys?, h.get?_of_mem known, Option.map_some]

theorem subjectKeys?_of_mem {e : SlotEntry} (h : a.Records subject cs) (built : subject.Built)
    (member : e ∈ subject.entries) : a.registry.subjectKeys? e.tag = some e.keys := by
  rw [h.lists.subjectKeys?_eq, built.keysFor?_tag member]

theorem directObjectKeys?_of_mem {slot : Slot} {e : SlotEntry} (h : a.Records subject cs)
    (known : c ∈ cs) (own : slot ∈ c.directObject) (built : slot.Built)
    (member : e ∈ slot.entries) : a.registry.directObjectKeys? c.id e.tag = some e.keys := by
  have table : c.directObjectTable[e.tag]? = c.directObject.bind (·.keysFor? e.tag) := by
    apply Command.getElem?_directObjectTable_of_built
    intro other own'
    rwa [Option.mem_unique own' own]
  rw [Registry.directObjectKeys?, h.commands, find?_of_nodup Command.id h.idsNodup known,
    Option.map_some, Option.bind_some, table, Option.mem_def.mp own, Option.bind_some,
    built.keysFor?_tag member]

end Assembler.Records

end Callout
