import Callout.Proofs.Agreement

namespace Callout

def SlotEntry.Says (e : SlotEntry) (ws : List String) : Prop :=
  ∃ phrase ∈ e.phrases, Text.words phrase = ws

instance (e : SlotEntry) (ws : List String) : Decidable (e.Says ws) :=
  inferInstanceAs (Decidable (∃ phrase ∈ e.phrases, Text.words phrase = ws))

namespace Path

theorem find?_furtherRounds {step : Step} {paths : List Path} {q : Path} {done : Path → Bool}
    (found : paths.find? done = some q) (k : Nat) :
    (furtherRounds step k paths).find? done = some q := by
  cases k with
  | zero => exact found
  | succ k =>
    cases paths with
    | nil => cases found
    | cons p paths => rw [furtherRounds, List.find?_append, found, Option.some_or]

theorem find?_repeated_one {step : Step} {p q : Path} {done : Path → Bool} {max : Nat}
    (found : (step p).find? done = some q) (allowed : 1 ≤ max) :
    (repeated step 1 (some max) p).find? done = some q := by
  have once : rounds step 1 [p] = step p := by
    rw [rounds_succ, List.flatMap_singleton, rounds]
  rw [repeated, if_neg (Nat.not_lt.mpr allowed), once]
  exact find?_furtherRounds found _

end Path

theorem Element.find?_pathsOfAny {refs : String → Step} {p : Path} {done : Path → Bool}
    (es : List Element) :
    (pathsOfAny refs es p).find? done = es.findSome? fun e => (e.paths refs p).find? done := by
  induction es with
  | nil => rfl
  | cons e es ih =>
    rw [pathsOfAny, List.find?_append, ih, List.findSome?_cons]
    cases (e.paths refs p).find? done <;> rfl

theorem SlotReference.paths_mention (r : SlotReference) (refs : String → Step) :
    r.mention.paths refs = refs r.rule := by
  funext p
  exact List.flatMap_singleton' (refs r.rule p)

theorem Grammar.refPaths_of_rule? {g : Grammar} {id : String} {rule : Rule} {n : Nat}
    (found : g.rule? id = some rule) : g.refPaths (n + 1) id = rule.body.paths (g.refPaths n) := by
  rw [refPaths, found]

/-- A grammar that understands a phrase of the slot on its own: the slot is its root, or the first
alternative of its root. -/
inductive Grammar.Offers (g : Grammar) (s : Slot) : Prop
  | root (found : g.rootRule? = some s.rule)
  | mention (id : String) (scope : RuleScope) (others : List Element)
    (root : g.rootRule? = some ⟨id, scope, .oneOf (s.reference.mention :: others)⟩)
    (found : g.rule? s.name = some s.rule)

theorem SemanticResult.ofAssignments_singleton (field value : String) :
    ofAssignments [(field, value)] = .ofList [(field, .string value)] := by
  simp [ofAssignments, valuesOf, fieldText, List.eraseDups_cons]

namespace Slot

variable {s : Slot} {g : Grammar} {n : Nat} {e first : SlotEntry} {ws : List String}

theorem find?_paths_alternative (s : Slot) (e : SlotEntry) (ws : List String) :
    ((s.alternative e).paths (g.refPaths n) ⟨ws, []⟩).find? (·.rest.isEmpty) =
      if e.Says ws then some ⟨[], [(s.kind.field, e.tag)]⟩ else none := by
  cases found : ((s.alternative e).paths (g.refPaths n) ⟨ws, []⟩).find? (·.rest.isEmpty) with
  | none =>
    rw [if_neg]
    intro spoken
    obtain ⟨phrase, member, rfl⟩ := spoken
    have derived : g.Derives n (s.alternative e) (Text.words phrase) [(s.kind.field, e.tag)] :=
      Grammar.derives_entry.mpr ⟨phrase, member, rfl, rfl⟩
    have matched := Grammar.find?_paths_isSome derived
    rw [found] at matched
    cases matched
  | some q =>
    obtain ⟨phrase, member, rfl, assigned⟩ :=
      Grammar.derives_entry.mp (Grammar.derives_of_find?_paths found)
    have complete : q.rest = [] := by simpa using List.find?_some found
    rw [if_pos ⟨phrase, member, rfl⟩, ← assigned, ← complete]

theorem find?_paths_rule (limit : 1 ≤ s.maxRepeat)
    (found : s.entries.find? (·.Says ws) = some first) :
    (s.rule.body.paths (g.refPaths n) ⟨ws, []⟩).find? (·.rest.isEmpty) =
      some ⟨[], [(s.kind.field, first.tag)]⟩ := by
  have choice : ((Element.oneOf (s.entries.map s.alternative)).paths (g.refPaths n)
      ⟨ws, []⟩).find? (·.rest.isEmpty) = some ⟨[], [(s.kind.field, first.tag)]⟩ := by
    obtain ⟨spoken, before, after, split, others⟩ := List.find?_eq_some_iff_append.mp found
    have unspoken : ∀ e ∈ before, ¬ e.Says ws := by simpa using others
    have earlier : before.findSome? (fun e =>
        if e.Says ws then some (⟨[], [(s.kind.field, e.tag)]⟩ : Path) else none) = none := by
      rw [List.findSome?_eq_none_iff]
      exact fun e member => if_neg (unspoken e member)
    rw [Element.paths, Element.find?_pathsOfAny, List.findSome?_map]
    simp only [Function.comp_def, find?_paths_alternative]
    rw [split, List.findSome?_append, earlier, Option.none_or, List.findSome?_cons,
      if_pos (of_decide_eq_true spoken)]
  unfold rule
  by_cases several : 1 < s.maxRepeat
  · simp only [several, if_true, Element.paths]
    rw [Element.paths] at choice
    exact Path.find?_repeated_one choice limit
  · simp only [several, if_false]
    exact choice

theorem interpret_of_first (offers : g.Offers s) (limit : 1 ≤ s.maxRepeat) {phrase : String}
    (spoken : Text.words phrase ≠ [])
    (found : s.entries.find? (·.Says (Text.words phrase)) = some first) :
    g.interpret phrase = some (.ofList [(s.kind.field, .string first.tag)]) := by
  have matched : g.assignments? (Text.words phrase) = some [(s.kind.field, first.tag)] := by
    obtain ⟨w, ws, same⟩ := List.exists_cons_of_ne_nil spoken
    rw [same] at found ⊢
    cases offers with
    | root rooted =>
      simp only [Grammar.assignments?, rooted, find?_paths_rule limit found]
      rfl
    | mention id scope others rooted rule =>
      have opened : g.refPaths Grammar.maxNesting s.reference.rule =
          s.rule.body.paths (g.refPaths 31) :=
        Grammar.refPaths_of_rule? rule
      have mentioned : (s.reference.mention.paths (g.refPaths Grammar.maxNesting)
          ⟨w :: ws, []⟩).find? (·.rest.isEmpty) = some ⟨[], [(s.kind.field, first.tag)]⟩ := by
        rw [SlotReference.paths_mention, opened]
        exact find?_paths_rule limit found
      simp only [Grammar.assignments?, rooted, Element.paths, Element.find?_pathsOfAny,
        List.findSome?_cons, mentioned]
      rfl
  rw [Grammar.interpret, matched, Option.map_some, SemanticResult.ofAssignments_singleton]

/-- But for the case of ASCII letters, the phrase is its words with one space between any two. -/
def Tidy (phrase : String) : Prop :=
  folded phrase = (" ".intercalate (Text.words phrase)).toList

instance (phrase : String) : Decidable (Tidy phrase) :=
  inferInstanceAs (Decidable (_ = _))

theorem words_ne_of_tidy (unique : s.Unique) :
    s.phrases.Pairwise fun p q => Tidy p → Tidy q → Text.words p ≠ Text.words q := by
  refine (List.pairwise_map.mp unique.phrases).imp ?_
  intro p q apart tidy tidy' same
  exact apart (tidy.trans (by rw [same, tidy']))

theorem interpret_eq_iff (unique : s.Unique) (limit : 1 ≤ s.maxRepeat) (offers : g.Offers s)
    {before after : List SlotEntry} (split : s.entries = before ++ e :: after) {phrase : String}
    (member : phrase ∈ e.phrases) :
    g.interpret phrase = some (.ofList [(s.kind.field, .string e.tag)]) ↔
      Text.words phrase ≠ [] ∧ ∀ f ∈ before, ¬ f.Says (Text.words phrase) := by
  constructor
  · intro selected
    have spoken : Text.words phrase ≠ [] :=
      ((g.interpret_isSome_iff phrase).mp (by rw [selected, Option.isSome_some])).1
    refine ⟨spoken, fun f earlier hidden => ?_⟩
    -- An earlier entry would have been selected, and its tag is another one.
    have covered : (before.find? (·.Says (Text.words phrase))).isSome :=
      List.find?_isSome.mpr ⟨f, earlier, decide_eq_true hidden⟩
    obtain ⟨first, found⟩ := Option.isSome_iff_exists.mp covered
    have taken : s.entries.find? (·.Says (Text.words phrase)) = some first := by
      rw [split, List.find?_append, found, Option.some_or]
    rw [interpret_of_first offers limit spoken taken] at selected
    have same : first.tag = e.tag := by
      have fields := congrArg SemanticResult.fields (Option.some.inj selected)
      simpa [SemanticResult.ofList, SemanticResult.insert, SemanticResult.empty,
        Json.insertMember] using fields
    have tags := unique.tags
    rw [split, List.map_append, List.map_cons, List.nodup_append'] at tags
    refine tags.2.2 (List.mem_map_of_mem (List.mem_of_find?_eq_some found)) ?_
    rw [same]
    exact List.mem_cons_self
  · intro h
    obtain ⟨spoken, unspoken⟩ := h
    apply interpret_of_first offers limit spoken
    rw [List.find?_eq_some_iff_append]
    refine ⟨decide_eq_true ⟨phrase, member, rfl⟩, before, after, split, ?_⟩
    simpa using unspoken

/-- Tidy phrases of a slot differ in their words. On its own a phrase selects its entry if it has a
word and no earlier entry has a phrase of the same words, and only then; so tidy phrases with a word
always do. -/
theorem Built.selects (built : s.Built) :
    s.phrases.Pairwise (fun p q => Tidy p → Tidy q → Text.words p ≠ Text.words q) ∧
    ∀ g : Grammar, g.Offers s →
      (∀ before e after, s.entries = before ++ e :: after → ∀ phrase ∈ e.phrases,
        (g.interpret phrase = some (.ofList [(s.kind.field, .string e.tag)]) ↔
          Text.words phrase ≠ [] ∧ ∀ f ∈ before, ¬ f.Says (Text.words phrase))) ∧
      ((∀ phrase ∈ s.phrases, Tidy phrase) → ∀ e ∈ s.entries, ∀ phrase ∈ e.phrases,
        Text.words phrase ≠ [] →
          g.interpret phrase = some (.ofList [(s.kind.field, .string e.tag)])) := by
  have apart := words_ne_of_tidy built.unique
  refine ⟨apart, fun g offers => ⟨?_, ?_⟩⟩
  · intro before e after split phrase member
    exact interpret_eq_iff built.unique built.one_le_maxRepeat offers split member
  · intro tidy e listed phrase member spoken
    obtain ⟨before, after, split⟩ := List.append_of_mem listed
    rw [interpret_eq_iff built.unique built.one_le_maxRepeat offers split member]
    refine ⟨spoken, fun f earlier hidden => ?_⟩
    obtain ⟨q, said, same⟩ := hidden
    have left : q ∈ before.flatMap (·.phrases) := List.mem_flatMap.mpr ⟨f, earlier, said⟩
    have right : phrase ∈ (e :: after).flatMap (·.phrases) :=
      List.mem_flatMap.mpr ⟨e, List.mem_cons_self, member⟩
    rw [phrases, split, List.flatMap_append] at apart tidy
    exact (List.pairwise_append.mp apart).2.2 q left phrase right
      (tidy q (List.mem_append_left _ left)) (tidy phrase (List.mem_append_right _ right)) same

end Slot

namespace Assembler

theorem offers_subject {culture : String} {subject : Slot} {a : Assembler}
    (start : Assembler.new culture subject = .ok a) (cs : List Command) :
    (a.addAll cs).build.1.Offers subject := by
  have records : (a.addAll cs).Records subject ([] ++ a.accepted cs) :=
    (new_records start).addAll
  have root := records.rootRule?
  rw [records.alternatives] at root
  exact .mention _ _ _ root records.rule?_subject

end Assembler

namespace Slot

theorem Built.selects_pair :
    Assembler.pair.Built ∧ (∀ phrase ∈ Assembler.pair.phrases, Tidy phrase) ∧
      (Assembler.lookout.addAll [Assembler.watch]).build.1.interpret "unit one" =
        some (.ofList [(subjectField, .string "ONE")]) := by
  have tidy : ∀ phrase ∈ Assembler.pair.phrases, Tidy phrase := by decide +kernel
  have start : Assembler.new "en-US" Assembler.pair = .ok Assembler.lookout := by rfl
  have offers := Assembler.offers_subject start [Assembler.watch]
  refine ⟨Assembler.pair_built, tidy, ?_⟩
  exact (Assembler.pair_built.selects.2 _ offers).2 tidy ⟨["one", "unit one"], "ONE", [.tap .f1]⟩
    List.mem_cons_self "unit one" (by simp) (by decide +kernel)

def crossroads : Slot :=
  ⟨"directionDO", .directObject, 1,
    [⟨["north east"], "NORTHEAST", []⟩, ⟨["north  east"], "OTHER", []⟩]⟩

theorem crossroads_built : crossroads.Built := by
  have first : (directObject "directionDO").addEntry ["north east"] "NORTHEAST" [] =
      .ok ⟨"directionDO", .directObject, 1, [⟨["north east"], "NORTHEAST", []⟩]⟩ := by rfl
  exact .addEntry (.addEntry (.directObject "directionDO") first)
    (show addEntry _ ["north  east"] "OTHER" [] = .ok crossroads by rfl)

def alone (s : Slot) : Grammar :=
  ⟨"en-US", [s.rule], s.name⟩

/-- The second direction is accepted, but its only phrase selects the first one. -/
theorem crossroads_hidden :
    crossroads.Built ∧ Text.words "north east" = Text.words "north  east" ∧
      crossroads.alone.Offers crossroads ∧ crossroads.alone.interpret "north  east" =
        some (.ofList [(directObjectField, .string "NORTHEAST")]) := by
  have same : Text.words "north east" = Text.words "north  east" := by decide +kernel
  have offers : crossroads.alone.Offers crossroads := .root rfl
  have found : crossroads.entries.find? (·.Says (Text.words "north  east")) =
      some ⟨["north east"], "NORTHEAST", []⟩ := by
    decide +kernel
  have spoken : Text.words "north  east" ≠ [] := by decide +kernel
  exact ⟨crossroads_built, same, offers,
    interpret_of_first offers crossroads_built.one_le_maxRepeat spoken found⟩

end Slot

end Callout
