import Callout.Proofs.Assembler.Admission
import Callout.Proofs.Assembler.Extension
import Callout.Proofs.Grammar.Nesting

namespace Callout

namespace Element

mutual

def placedTags (before : Option Element) : Element → List (Option Element × Tag)
  | phrase _ => []
  | oneOf alternatives => placedTagsOfAny alternatives
  | sequence parts => placedTagsOfAll none parts
  | ruleRef _ => []
  | repetition inner _ _ => inner.placedTags none
  | tag t => [(before, t)]

def placedTagsOfAny : List Element → List (Option Element × Tag)
  | [] => []
  | e :: es => e.placedTags none ++ placedTagsOfAny es

def placedTagsOfAll (before : Option Element) : List Element → List (Option Element × Tag)
  | [] => []
  | e :: es => e.placedTags before ++ placedTagsOfAll (some e) es

end

/-- Every tag for the output of a rule stands right after a reference to this rule. -/
def Answered (e : Element) : Prop :=
  ∀ before field rule, (before, ⟨field, .ruleOutput rule⟩) ∈ e.placedTags none →
    before = some (.ruleRef rule)

theorem mem_placedTagsOfAny {es : List Element} {placed : Option Element × Tag} :
    placed ∈ placedTagsOfAny es ↔ ∃ e ∈ es, placed ∈ e.placedTags none := by
  induction es with
  | nil => simp [placedTagsOfAny]
  | cons e es ih => simp [placedTagsOfAny, ih]

theorem exists_of_mem_placedTagsOfAll {before : Option Element} {es : List Element}
    {placed : Option Element × Tag} (member : placed ∈ placedTagsOfAll before es) :
    ∃ e ∈ es, ∃ before', placed ∈ e.placedTags before' := by
  induction es generalizing before with
  | nil => cases member
  | cons e es ih =>
    rcases List.mem_append.mp member with first | later
    · exact ⟨e, List.mem_cons_self, before, first⟩
    · obtain ⟨f, listed, placed⟩ := ih later
      exact ⟨f, List.mem_cons_of_mem e listed, placed⟩

theorem Answered.oneOf {es : List Element} (answered : ∀ e ∈ es, e.Answered) :
    (Element.oneOf es).Answered := by
  intro before field rule placed
  obtain ⟨e, member, placed⟩ := mem_placedTagsOfAny.mp placed
  exact answered e member before field rule placed

theorem placedTagsOfAny_phrases (phrases : List String) :
    placedTagsOfAny (phrases.map .phrase) = [] := by
  rw [List.eq_nil_iff_forall_not_mem]
  intro placed member
  obtain ⟨e, listed, member⟩ := mem_placedTagsOfAny.mp member
  obtain ⟨phrase, _, rfl⟩ := List.mem_map.mp listed
  cases member

end Element

theorem Slot.answered_rule (s : Slot) : s.rule.body.Answered := by
  have alternative (entry : SlotEntry) : (s.alternative entry).Answered := by
    intro before field rule placed
    simp [Slot.alternative, Element.placedTags, Element.placedTagsOfAll,
      Element.placedTagsOfAny_phrases, Element.literalTag] at placed
  have choice : (Element.oneOf (s.entries.map s.alternative)).Answered := by
    apply Element.Answered.oneOf
    intro e member
    obtain ⟨entry, _, rfl⟩ := List.mem_map.mp member
    exact alternative entry
  unfold rule
  by_cases several : 1 < s.maxRepeat
  · simpa only [several, if_true, Element.Answered, Element.placedTags] using choice
  · simpa only [several, if_false] using choice

theorem SlotReference.placedTags_mention (r : SlotReference) :
    r.mention.placedTags none = [(some (.ruleRef r.rule), ⟨r.kind.field, .ruleOutput r.rule⟩)] :=
  rfl

theorem SlotReference.answered_mention (r : SlotReference) : r.mention.Answered := by
  intro before field rule placed
  rw [r.placedTags_mention, List.mem_singleton] at placed
  cases placed
  rfl

theorem Command.answered_alternative (c : Command) : c.alternative.Answered := by
  intro before field rule placed
  obtain ⟨e, part, before', placed⟩ := Element.exists_of_mem_placedTagsOfAll placed
  rw [List.mem_append, List.mem_append, Option.mem_toList, Option.mem_toList] at part
  rcases part with (subject | trigger) | directObject
  · obtain ⟨r, _, rfl⟩ := Option.map_eq_some_iff.mp subject
    exact r.answered_mention before field rule placed
  · rcases List.mem_pair.mp trigger with rfl | rfl
    · rw [Element.placedTags, Element.placedTagsOfAny_phrases] at placed
      cases placed
    · simp [Element.literalTag, Element.placedTags] at placed
  · obtain ⟨slot, _, rfl⟩ := Option.map_eq_some_iff.mp directObject
    exact slot.reference.answered_mention before field rule placed

/-- Every reference in the grammar resolves to a single rule, only the root rule holds references,
every rule but those of the root and the subject belongs to one of the alternatives, and every
output that is used is that of the rule referred to. -/
structure Grammar.Closed (g : Grammar) (subject : String) (alternatives : List Element) : Prop where
  root : g.rootRule? = some ⟨g.root, .shared, .oneOf alternatives⟩
  resolved : ∀ r ∈ g.rules, ∀ id ∈ r.body.referencedRules, g.rules.countP (·.id == id) = 1
  shallow : ∀ r ∈ g.rules, r.body.referencedRules ≠ [] → g.rootRule? = some r
  unrooted : ∀ r ∈ g.rules, g.root ∉ r.body.referencedRules
  owned : ∀ r ∈ g.rules, r.id ≠ g.root → r.id ≠ subject →
    alternatives.countP (r.id ∈ ·.referencedRules) = 1
  answered : ∀ r ∈ g.rules, r.body.Answered

theorem Grammar.Closed.falls {g : Grammar} {subject : String} {alternatives : List Element}
    (closed : g.Closed subject alternatives) : g.Falls fun id => if id = g.root then 1 else 0 := by
  intro id rule found other referenced
  have member := List.mem_of_find?_eq_some found
  have here : rule.id = id := by simpa using List.find?_some found
  have apart : other ≠ g.root := by
    rintro rfl
    exact closed.unrooted rule member referenced
  have root := closed.shallow rule member (List.ne_nil_of_mem referenced)
  have rooted : rule.id = g.root := by simpa using List.find?_some root
  simp only [apart, here.symm.trans rooted, if_true, if_false, Nat.zero_lt_one]

namespace Assembler

variable {a : Assembler} {subject : Slot} {cs : List Command}

theorem Records.mem_rules_iff {rule : Rule} (h : a.Records subject cs) :
    rule ∈ a.grammar.rules ↔ rule = subject.rule ∨
      (∃ c ∈ cs, ∃ slot ∈ c.directObject, slot.rule = rule) ∨
      rule = ⟨rootRule, .shared, .oneOf a.alternatives⟩ := by
  simp [grammar, h.ownSubject, h.directObjects]

theorem Records.mentionable_of_rule {rule : Rule} {id : String} (h : a.Records subject cs)
    (own : ∀ c ∈ cs, ∀ r ∈ c.subject, r = subject.reference) (member : rule ∈ a.grammar.rules)
    (referenced : id ∈ rule.body.referencedRules) :
    rule = ⟨rootRule, .shared, .oneOf a.alternatives⟩ ∧ Mentionable subject cs id := by
  rcases h.mem_rules_iff.mp member with rfl | ⟨c, _, slot, _, rfl⟩ | rfl
  · rw [subject.referencedRules_rule] at referenced
    cases referenced
  · rw [slot.referencedRules_rule] at referenced
    cases referenced
  · obtain ⟨e, alternative, referenced⟩ := Element.mem_referencedRulesOfAll.mp referenced
    exact ⟨rfl, h.mentionable own alternative referenced⟩

theorem Records.count_rule {id : String} (h : a.Records subject cs)
    (known : Mentionable subject cs id) : a.grammar.rules.countP (·.id == id) = 1 := by
  have listed : id ∈ a.grammar.rules.map (·.id) := by
    rcases known with rfl | ⟨c, member, slot, own, rfl⟩
    · exact List.mem_map.mpr ⟨subject.rule, h.mem_rules_iff.mpr (.inl rfl), rfl⟩
    · exact List.mem_map.mpr
        ⟨slot.rule, h.mem_rules_iff.mpr (.inr (.inl ⟨c, member, slot, own, rfl⟩)), rfl⟩
  have once := List.count_eq_one_of_mem h.rules_nodup listed
  rwa [List.count, List.countP_map] at once

theorem Records.name_ne_subject {c : Command} {slot : Slot} (h : a.Records subject cs)
    (member : c ∈ cs) (directObject : slot ∈ c.directObject) : slot.name ≠ subject.name := by
  intro same
  have others := (List.nodup_cons.mp h.rulesNodup).2
  apply (List.nodup_cons.mp others).1
  rw [← same, List.mem_filterMap]
  exact ⟨c, member, by rw [directObject, Option.map_some]⟩

theorem Records.count_alternative {c : Command} {slot : Slot} (h : a.Records subject cs)
    (own : ∀ c ∈ cs, ∀ r ∈ c.subject, r = subject.reference) (member : c ∈ cs)
    (directObject : slot ∈ c.directObject) :
    a.alternatives.countP (slot.name ∈ ·.referencedRules) = 1 := by
  -- An alternative mentions nothing but the subject, which has another name, and its own slot.
  have apart := h.name_ne_subject member directObject
  have alone : slot.name ∉ subject.reference.mention.referencedRules := by
    intro referenced
    exact apart (List.mem_singleton.mp referenced)
  have mentions : ∀ d ∈ cs, slot.name ∈ d.alternative.referencedRules ↔
      d.directObject.map (·.name) = some slot.name := by
    intro d known
    rw [Command.mem_referencedRules_alternative, Option.map_eq_some_iff]
    constructor
    · rintro (⟨r, present, same⟩ | mentioned)
      · rw [own d known r present] at same
        exact absurd same.symm apart
      · exact mentioned
    · exact .inr
  have others := (List.nodup_cons.mp (List.nodup_cons.mp h.rulesNodup).2).2
  have listed : slot.name ∈ cs.filterMap fun c => c.directObject.map (·.name) :=
    List.mem_filterMap.mpr ⟨c, member, by rw [directObject, Option.map_some]⟩
  have once := List.count_eq_one_of_mem others listed
  rw [List.count_filterMap] at once
  rw [h.alternatives, List.countP_cons_of_neg (by simpa using alone), List.countP_map, ← once]
  apply List.countP_congr
  intro d known
  simpa using mentions d known

theorem Records.closed (h : a.Records subject cs)
    (own : ∀ c ∈ cs, ∀ r ∈ c.subject, r = subject.reference) :
    a.grammar.Closed subject.name a.alternatives where
  root := h.rootRule?
  resolved r member id referenced := h.count_rule (h.mentionable_of_rule own member referenced).2
  shallow r member references := by
    obtain ⟨id, referenced⟩ := List.exists_mem_of_ne_nil _ references
    rw [(h.mentionable_of_rule own member referenced).1]
    exact h.rootRule?
  unrooted r member referenced := by
    have root := (List.nodup_cons.mp h.rulesNodup).1
    have mentionable := (h.mentionable_of_rule own member referenced).2
    rcases mentionable with same | ⟨c, known, slot, directObject, same⟩
    · exact root (List.mem_cons.mpr (.inl same))
    · apply root
      rw [List.mem_cons, List.mem_filterMap]
      exact .inr ⟨c, known, by rw [directObject, Option.map_some, same]; rfl⟩
  owned r member notRoot notSubject := by
    rcases h.mem_rules_iff.mp member with rfl | ⟨c, known, slot, directObject, rfl⟩ | rfl
    · exact absurd rfl notSubject
    · exact h.count_alternative own known directObject
    · exact absurd rfl notRoot
  answered r member := by
    rcases h.mem_rules_iff.mp member with rfl | ⟨c, _, slot, _, rfl⟩ | rfl
    · exact subject.answered_rule
    · exact slot.answered_rule
    · apply Element.Answered.oneOf
      rw [h.alternatives, List.forall_mem_cons, List.forall_mem_map]
      exact ⟨subject.reference.answered_mention, fun c _ => c.answered_alternative⟩

/-- Whatever commands come, as long as they take no subject but the one that there is: references
in the grammar resolve, and an utterance means what it means when they are followed without a
limit. -/
theorem build_closed {culture : String} (start : Assembler.new culture subject = .ok a)
    (own : ∀ c ∈ a.accepted cs, ∀ r ∈ c.subject, r = a.subjectRef) :
    (a.addAll cs).build.1.Closed subject.name (a.addAll cs).alternatives ∧
    (∃ refs, (a.addAll cs).build.1.Unlimited refs) ∧
    ∀ refs, (a.addAll cs).build.1.Unlimited refs → ∀ utterance,
      (a.addAll cs).build.1.meaning? refs utterance =
        (a.addAll cs).build.1.interpret utterance := by
  have records : (a.addAll cs).Records subject (a.accepted cs) := (new_records start).addAll
  rw [(new_records start).subjectRef_eq] at own
  have closed := records.closed own
  have bound (id : String) : (if id = rootRule then 1 else 0) < 2 := by
    split <;> omega
  refine ⟨closed, ⟨_, closed.falls.unlimited bound⟩, ?_⟩
  intro refs unlimited utterance
  apply closed.falls.meaning?_eq _ unlimited
  rw [if_pos rfl]
  decide

theorem build_closed_lookout :
    Assembler.new "en-US" pair = .ok lookout ∧
    (lookout.addAll [watch, watch, decoy]).build.1.Closed "subject"
      [pair.reference.mention, watch.alternative] ∧
    ∃ refs, (lookout.addAll [watch, watch, decoy]).build.1.Unlimited refs ∧
      ((lookout.addAll [watch, watch, decoy]).build.1.meaning? refs
        "Two, unit one: watch the north east!").isSome := by
  have start : Assembler.new "en-US" pair = .ok lookout := by rfl
  have own : ∀ c ∈ lookout.accepted [watch, watch, decoy], ∀ r ∈ c.subject,
      r = lookout.subjectRef := by
    rw [accepted_lookout]
    simp [watch, subjectRef, lookout]
  have alone : lookout.addAll [watch, watch, decoy] = lookout.extended watch := by
    rw [← addAll_accepted, accepted_lookout, addAll_lookout]
  obtain ⟨closed, ⟨refs, unlimited⟩, same⟩ := build_closed start own
  have understood := same refs unlimited "Two, unit one: watch the north east!"
  rw [alone] at closed unlimited understood ⊢
  refine ⟨start, closed, refs, unlimited, ?_⟩
  rw [understood]
  decide +kernel

end Assembler

end Callout
