import Callout.Proofs.Registry

namespace Callout

def Slot.tagKeys (s : Slot) (tag : String) : List KeyOperation :=
  (s.entryFor? tag).toList.flatMap (·.keys)

theorem Slot.keysFor?_getD (s : Slot) (tag : String) :
    (s.keysFor? tag).getD [] = s.tagKeys tag := by
  unfold keysFor? tagKeys
  cases s.entryFor? tag <;> simp

namespace Registry

def registerAll (r : Registry) : List Command → Registry
  | [] => r
  | c :: cs =>
    match r.register c with
    | .ok s => s.registerAll cs
    | .error _ => r.registerAll cs

def registered (r : Registry) : List Command → List Command
  | [] => []
  | c :: cs =>
    match r.register c with
    | .ok s => c :: s.registered cs
    | .error _ => r.registered cs

variable {r s : Registry} {subject : Slot} {cs ds : List Command} {c : Command}

theorem mem_of_mem_registered (h : c ∈ r.registered cs) : c ∈ cs := by
  induction cs generalizing r with
  | nil => cases h
  | cons d cs ih =>
    unfold registered at h
    split at h
    · rcases List.mem_cons.mp h with rfl | later
      · exact List.mem_cons_self
      · exact List.mem_cons_of_mem _ (ih later)
    · exact List.mem_cons_of_mem _ (ih h)

theorem registerAll_registered (r : Registry) (cs : List Command) :
    r.registerAll (r.registered cs) = r.registerAll cs := by
  induction cs generalizing r with
  | nil => rfl
  | cons c cs ih =>
    cases added : r.register c with
    | ok s => simp only [registered, registerAll, added, ih s]
    | error e => simp only [registered, registerAll, added, ih r]

theorem empty_lists (subject : Slot) : (empty subject).Lists subject [] :=
  ⟨rfl, rfl, fun _ => Std.HashMap.getElem?_empty, List.nodup_nil⟩

theorem register_eq_ok_iff : r.register c = .ok s ↔ r.contains c.id = false ∧
    s = { r with
      commands := r.commands.insert c.id ⟨c, c.directObjectTable⟩
      ids := r.ids ++ [c.id] } := by
  unfold register
  by_cases known : r.contains c.id = true
  · simp [known]
  · simp [known, eq_comm]

theorem register_eq_error_iff {e : Error} : r.register c = .error e ↔
    r.contains c.id = true ∧ e = .duplicateCommand c.id := by
  unfold register
  by_cases known : r.contains c.id = true
  · simp [known, eq_comm]
  · simp [known]

theorem Lists.register (h : r.Lists subject cs) (added : r.register c = .ok s) :
    s.Lists subject (cs ++ [c]) := by
  obtain ⟨unknown, rfl⟩ := register_eq_ok_iff.mp added
  have fresh : c.id ∉ cs.map (·.id) := by
    rw [← h.contains_iff, unknown]
    exact Bool.false_ne_true
  refine ⟨h.ownSubject, ?_, ?_, ?_⟩
  · rw [h.ids, List.map_append, List.map_singleton]
  · intro id
    rw [Std.HashMap.getElem?_insert, h.commands, List.find?_append]
    by_cases here : c.id = id
    · subst here
      have absent : cs.find? (·.id == c.id) = none := by
        rw [← Option.not_isSome_iff_eq_none, find?_isSome_iff]
        exact fresh
      simp [absent]
    · simp [here]
  · rw [List.map_append, List.map_singleton, ← List.concat_eq_append]
    exact h.idsNodup.concat fresh

theorem Lists.registerAll (h : r.Lists subject cs) :
    (r.registerAll ds).Lists subject (cs ++ r.registered ds) := by
  induction ds generalizing r cs with
  | nil =>
    rw [registered, List.append_nil]
    exact h
  | cons d ds ih =>
    unfold Registry.registerAll registered
    split
    · rename_i s added
      have step := ih (h.register added)
      rwa [List.append_assoc, List.singleton_append] at step
    · exact ih h

theorem size_register (added : r.register c = .ok s) : s.size = r.size + 1 := by
  obtain ⟨unknown, rfl⟩ := register_eq_ok_iff.mp added
  have absent : c.id ∉ r.commands := by
    rw [← Std.HashMap.contains_iff_mem]
    simpa [contains] using unknown
  simp only [size, Std.HashMap.size_insert, if_neg absent]

theorem size_registerAll (r : Registry) (cs : List Command) :
    (r.registerAll cs).size = r.size + (r.registered cs).length := by
  induction cs generalizing r with
  | nil => rfl
  | cons c cs ih =>
    unfold registerAll registered
    split
    · rename_i s added
      rw [ih, size_register added, List.length_cons]
      omega
    · exact ih r

theorem Lists.find?_registered (h : r.Lists subject cs) (id : String) :
    (cs ++ r.registered ds).find? (·.id == id) = (cs ++ ds).find? (·.id == id) := by
  induction ds generalizing r cs with
  | nil => rfl
  | cons d ds ih =>
    unfold registered
    split
    · rename_i s added
      have step := ih (h.register added)
      rwa [List.append_assoc, List.append_assoc] at step
    · rename_i e refused
      rw [ih h, List.find?_append, List.find?_append]
      have known := (h.contains_iff d.id).mp (register_eq_error_iff.mp refused).1
      by_cases same : d.id = id
      · subst same
        obtain ⟨first, found⟩ := Option.isSome_iff_exists.mp (find?_isSome_iff.mpr known)
        rw [found, Option.some_or, Option.some_or]
      · rw [List.find?_cons_of_neg (by simpa using same)]

/-- The keys of an order by a list of commands: those of all subjects that are known; then, if one
of the commands is meant, its own, and those of a direct object that its slot has. -/
def listedKeys (subject : Slot) (cs : List Command) (o : Order) : List KeyOperation :=
  (o.subjects.getD []).flatMap subject.tagKeys ++
    (o.command.bind fun id => cs.find? (·.id == id)).toList.flatMap fun c =>
      c.keys ++ o.directObject.toList.flatMap fun tag =>
        c.directObject.toList.flatMap (·.tagKeys tag)

/-- The registry answers like a list of commands. -/
structure Reflects (r : Registry) (subject : Slot) (cs : List Command) : Prop where
  refused : ∀ c e, r.register c = .error e ↔ c.id ∈ cs.map (·.id) ∧ e = .duplicateCommand c.id
  accepted : ∀ c, (∃ s, r.register c = .ok s) ↔ c.id ∉ cs.map (·.id)
  contains : ∀ id, r.contains id = true ↔ ∃ c ∈ cs, c.id = id
  get? : ∀ id, r.get? id = cs.find? (·.id == id)
  commandKeys? : ∀ id, r.commandKeys? id = (cs.find? (·.id == id)).map (·.keys)
  directObjectKeys? : ∀ id tag, r.directObjectKeys? id tag =
    ((cs.find? (·.id == id)).bind fun c => c.directObject.bind (·.entryFor? tag)).map (·.keys)
  ids : r.ids = cs.map (·.id)
  idsNodup : r.ids.Nodup
  size : r.size = cs.length
  isEmpty : r.isEmpty = cs.isEmpty
  resolve : ∀ o, r.resolve o = listedKeys subject cs o

theorem Lists.resolve_eq (h : r.Lists subject cs)
    (built : ∀ c ∈ cs, ∀ slot ∈ c.directObject, slot.Built) (o : Order) :
    r.resolve o = listedKeys subject cs o := by
  have subjects (tag : String) : (r.subjectKeys? tag).getD [] = subject.tagKeys tag := by
    rw [h.subjectKeys?_eq, Slot.keysFor?_getD]
  unfold resolve listedKeys
  simp only [subjects]
  cases o.command with
  | none => simp
  | some id =>
    simp only [h.commandKeys?_eq, Option.bind_some]
    cases found : cs.find? (·.id == id) with
    | none => simp
    | some c =>
      have directObject : (o.directObject.bind (r.directObjectKeys? id)).getD [] =
          o.directObject.toList.flatMap fun tag =>
            c.directObject.toList.flatMap (·.tagKeys tag) := by
        cases o.directObject with
        | none => rfl
        | some tag =>
          rw [Option.bind_some, h.directObjectKeys?_eq built, found, Option.bind_some]
          cases c.directObject with
          | none => rfl
          | some slot => simp [Slot.keysFor?_getD]
      simp [directObject]

theorem Lists.reflects (h : r.Lists subject cs) (size : r.size = cs.length)
    (built : ∀ c ∈ cs, ∀ slot ∈ c.directObject, slot.Built) : r.Reflects subject cs where
  refused c e := by rw [register_eq_error_iff, h.contains_iff]
  accepted c := by
    simp only [register_eq_ok_iff, exists_and_left, exists_eq, and_true]
    rw [← h.contains_iff, Bool.not_eq_true]
  contains id := by rw [h.contains_iff, List.mem_map]
  get? := h.get?_eq
  commandKeys? := h.commandKeys?_eq
  directObjectKeys? id tag := by
    rw [h.directObjectKeys?_eq built]
    simp only [Option.map_bind, Function.comp_def, Slot.keysFor?]
  ids := h.ids
  idsNodup := h.ids ▸ h.idsNodup
  size := size
  isEmpty := by
    have same : r.isEmpty = (r.size == 0) := rfl
    rw [same, size]
    cases cs <;> rfl
  resolve := h.resolve_eq built

/-- Whatever is registered, and in whatever order, the registry says the same as the plain list of
the commands that it accepted, the first with each id: in all its lookups, and in the keys of every
order. So no other command changes the keys of an order, and a direct object adds none of its own
without its command. -/
theorem reflects_registerAll (subject : Slot) (cs : List Command)
    (built : ∀ c ∈ cs, ∀ slot ∈ c.directObject, slot.Built) :
    ((empty subject).registerAll cs).Reflects subject ((empty subject).registered cs) ∧
    ((empty subject).registerAll cs =
        (empty subject).registerAll ((empty subject).registered cs) ∧
      ∀ id, ((empty subject).registered cs).find? (·.id == id) = cs.find? (·.id == id)) ∧
    (∀ (ds : List Command) (o : Order),
      (∀ id ∈ o.command, ds.find? (·.id == id) = cs.find? (·.id == id)) →
      ((empty subject).registerAll ds).resolve o = ((empty subject).registerAll cs).resolve o) ∧
    ∀ (o : Order), (∀ id ∈ o.command, id ∉ ((empty subject).registered cs).map (·.id)) →
      ((empty subject).registerAll cs).resolve o =
        (o.subjects.getD []).flatMap subject.tagKeys := by
  have lists (ds : List Command) :
      ((empty subject).registerAll ds).Lists subject ((empty subject).registered ds) :=
    (empty_lists subject).registerAll
  have first (ds : List Command) (id : String) :
      ((empty subject).registered ds).find? (·.id == id) = ds.find? (·.id == id) :=
    (empty_lists subject).find?_registered id
  have size : ((empty subject).registerAll cs).size = ((empty subject).registered cs).length := by
    rw [size_registerAll, size, empty, Std.HashMap.size_empty, Nat.zero_add]
  have own : ∀ c ∈ (empty subject).registered cs, ∀ slot ∈ c.directObject, slot.Built :=
    fun c known => built c (mem_of_mem_registered known)
  refine ⟨(lists cs).reflects size own, ⟨(registerAll_registered _ cs).symm, first cs⟩, ?_, ?_⟩
  · intro ds o same
    apply resolve_congr
    · rw [(lists ds).ownSubject, (lists cs).ownSubject]
    · intro id named
      rw [(lists ds).commands, (lists cs).commands, first, first, same id named]
  · intro o unknown
    rw [(lists cs).resolve_eq own]
    cases named : o.command with
    | none => simp [listedKeys, named]
    | some id =>
      have absent : ((empty subject).registered cs).find? (·.id == id) = none := by
        rw [← Option.not_isSome_iff_eq_none, find?_isSome_iff]
        exact unknown id named
      simp [listedKeys, named, absent]

def redTeam (name : String) (key : Key) : Slot :=
  ⟨name, .directObject, 1, [⟨["red"], "RED", [.tap key]⟩]⟩

theorem redTeam_built (name : String) (key : Key) : (redTeam name key).Built :=
  .addEntry (.directObject name)
    (show Slot.addEntry _ ["red"] "RED" [.tap key] = .ok (redTeam name key) by rfl)

def teamCommands : List Command :=
  [⟨"ASSIGN", ["assign"], [.tap .nine], none, some (redTeam "teamDO" .one)⟩,
   ⟨"PAINT", ["paint"], [.tap .p], none, some (redTeam "paintDO" .f5)⟩,
   ⟨"ASSIGN", ["reassign"], [.tap .zero], none, none⟩]

theorem reflects_registerAll_teams :
    (∀ c ∈ teamCommands, ∀ slot ∈ c.directObject, slot.Built) ∧
    ((empty (.subject "subject" 1)).registerAll teamCommands).resolve
      ⟨some ["RED"], some "ASSIGN", some "RED"⟩ = [.tap .nine, .tap .one] ∧
    ((empty (.subject "subject" 1)).registerAll teamCommands).resolve
      ⟨none, some "LAUNCH", some "RED"⟩ = [] := by
  have built : ∀ c ∈ teamCommands, ∀ slot ∈ c.directObject, slot.Built := by
    simp [teamCommands, redTeam_built]
  obtain ⟨reflects, ⟨_, first⟩, _, without⟩ :=
    reflects_registerAll (.subject "subject" 1) teamCommands built
  refine ⟨built, ?_, ?_⟩
  · rw [reflects.resolve]
    simp only [listedKeys, Option.bind_some, first]
    decide +kernel
  · apply without
    intro id named known
    obtain rfl := Option.some.inj named
    have found := find?_isSome_iff.mpr known
    rw [first] at found
    exact absurd found (by decide +kernel)

end Registry

end Callout
