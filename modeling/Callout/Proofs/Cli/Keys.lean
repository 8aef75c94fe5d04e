import Callout.Cli.Run
import Callout.Proofs.Catalog.Keys
import Callout.Proofs.Emulator.Performance
import Callout.Proofs.Grammar.Rewriting
import Callout.Proofs.Listening
import Callout.Proofs.Semantics.Joining
import Callout.Proofs.Session.Refusal

namespace Callout

theorem flatMap_filter {α β : Type} {p : α → Bool} {f : α → List β}
    (silent : ∀ x, p x = false → f x = []) (l : List α) :
    (l.filter p).flatMap f = l.flatMap f := by
  induction l with
  | nil => rfl
  | cons x l ih =>
    cases kept : p x with
    | true => rw [List.filter_cons_of_pos kept, List.flatMap_cons, List.flatMap_cons, ih]
    | false =>
      rw [List.filter_cons_of_neg (by simp [kept]), List.flatMap_cons, silent x kept,
        List.nil_append, ih]

namespace Cli

open Catalog (CommandDefinition tagKeys tagged taps)

variable {k : KeyRequest} {d : CommandDefinition}

def KeyRequest.Clear (k : KeyRequest) : Prop :=
  (∀ text ∈ k.subjects, IsClear text) ∧ ∀ text ∈ k.directObject, IsClear text

def KeyRequest.keys (k : KeyRequest) (d : CommandDefinition) : List Key :=
  k.subjects.flatMap (tagKeys Catalog.subjects) ++
    (d.keys ++ k.directObject.toList.flatMap (tagKeys d.directObjectTags))

namespace KeyRequest

theorem get?_result (k : KeyRequest) :
    k.result.get? commandField = some (.string k.command) ∧
    k.result.get? directObjectField = k.directObject.map .string ∧
    k.result.get? subjectField =
      if k.subjects = [] then none else some (.string (" ".intercalate k.subjects)) := by
  have empty (field : String) : SemanticResult.empty.get? field = none := rfl
  unfold result
  cases k.directObject <;> cases k.subjects <;>
    simp [SemanticResult.ofList, SemanticResult.get?_insert, empty, commandField, directObjectField,
      subjectField]

/-- What is left of the request when its fields are taken apart. -/
theorem order_result (clear : k.Clear) (plain : IsFragment k.command) :
    k.result.order.subjects.getD [] = k.subjects.filter (· ≠ "") ∧
    k.result.order.command = some k.command ∧
    k.result.order.directObject = k.directObject.filter (· ≠ "") := by
  obtain ⟨command, directObject, subjects⟩ := k.get?_result
  unfold SemanticResult.order SemanticResult.list? SemanticResult.scalar? SemanticResult.text?
  rw [command, directObject, subjects]
  refine ⟨?_, ?_, ?_⟩
  · by_cases none : k.subjects = []
    · simp [none]
    · simp [none, fragments_intercalate clear.1]
  · simp [plain.fragments_eq]
  · cases given : k.directObject with
    | none => rfl
    | some text =>
      simp only [Option.map_some, Option.bind_some, fragments_of_clear (clear.2 text given)]
      by_cases empty : text = "" <;> simp [Option.filter_some, empty]

end KeyRequest

/-- The fields of a result that is understood as a command, after some subjects and with a direct
object or without one. -/
structure Names (r : SemanticResult) (subjects : List String) (command : String)
    (directObject : Option String) : Prop where
  subject : r.get? subjectField = spelled? subjects
  command : r.get? commandField = some (.string command)
  directObject : r.get? directObjectField = directObject.map .string

theorem names_ofAssignments {entries : List (String × String)} {command : String}
    {directObject : Option String} (only : valuesOf commandField entries = [command])
    (own : valuesOf directObjectField entries = directObject.toList) :
    Names (.ofAssignments entries) (valuesOf subjectField entries) command directObject where
  subject := by rw [SemanticResult.get?_ofAssignments, spelled?_eq]
  command := by
    rw [SemanticResult.get?_ofAssignments, only]
    rfl
  directObject := by
    rw [SemanticResult.get?_ofAssignments, own]
    cases directObject <;> rfl

theorem Names.order {r : SemanticResult} {subjects : List String} {command : String}
    {directObject : Option String} (names : Names r subjects command directObject)
    (subjectPlain : ∀ tag ∈ subjects, IsFragment tag) (commandPlain : IsFragment command)
    (directObjectPlain : ∀ tag ∈ directObject, IsFragment tag) :
    r.order.subjects.getD [] = subjects ∧ r.order.command = some command ∧
    r.order.directObject = directObject := by
  unfold SemanticResult.order SemanticResult.list? SemanticResult.scalar? SemanticResult.text?
  rw [names.command, names.directObject, names.subject, spelled?_eq]
  refine ⟨?_, ?_, ?_⟩
  · by_cases none : subjects = []
    · simp [none]
    · simp [none, fragments_fieldText subjectPlain]
  · simp [commandPlain.fragments_eq]
  · cases given : directObject with
    | none => rfl
    | some tag => simp [(directObjectPlain tag given).fragments_eq]

section Resolve

variable {registry : Registry} {maxSubjects : Nat}
  (lists : registry.Lists (Catalog.units maxSubjects) (Catalog.commands.map (·.assembled)))
  (known : d ∈ Catalog.commands) (same : d.id = k.command)

include lists known same

theorem resolve_of_filter {o : Order} {p q : String → Bool} (command : o.command = some k.command)
    (subjects : o.subjects.getD [] = k.subjects.filter p)
    (directObject : o.directObject = k.directObject.filter q)
    (silent : ∀ tag, p tag = false → tagKeys Catalog.subjects tag = [])
    (silent' : ∀ tag, q tag = false → tagKeys d.directObjectTags tag = []) :
    registry.resolve o = taps (k.keys d) := by
  rw [← same] at command
  rw [Catalog.resolve_of_lists lists known command, subjects, directObject, Option.toList_filter,
    flatMap_filter silent, flatMap_filter silent', KeyRequest.keys]

theorem KeyRequest.Clear.resolve_result (clear : k.Clear) :
    registry.resolve k.result.order = taps (k.keys d) := by
  have plain : IsFragment k.command := same ▸ Catalog.isFragment_id d known
  have plains := Catalog.isFragment_directObjectTags known
  obtain ⟨subjects, command, directObject⟩ := KeyRequest.order_result clear plain
  exact resolve_of_filter lists known same command subjects directObject
    (fun _ => Catalog.tagKeys_of_empty Catalog.isFragment_subject)
    (fun _ => Catalog.tagKeys_of_empty plains)

theorem Names.resolve {r : SemanticResult}
    (names : Names r (k.subjects.filter (tagged Catalog.subjects)) k.command
      (k.directObject.filter (tagged d.directObjectTags))) :
    registry.resolve r.order = taps (k.keys d) := by
  have plain : IsFragment k.command := same ▸ Catalog.isFragment_id d known
  have plains := Catalog.isFragment_directObjectTags known
  have told : ∀ tag ∈ k.subjects.filter (tagged Catalog.subjects), IsFragment tag := by
    intro tag member
    exact Catalog.isFragment_of_tagged Catalog.isFragment_subject (List.mem_filter.mp member).2
  have told' : ∀ tag ∈ k.directObject.filter (tagged d.directObjectTags), IsFragment tag := by
    intro tag member
    exact Catalog.isFragment_of_tagged plains (Option.mem_filter_iff.mp member).2
  obtain ⟨subjects, command, directObject⟩ := names.order told plain told'
  exact resolve_of_filter lists known same command subjects directObject
    (fun _ => Catalog.tagKeys_of_untagged) (fun _ => Catalog.tagKeys_of_untagged)

end Resolve

theorem setup_eq (config : Config) :
    ∃ a : Assembler, a.Records (Catalog.units config.grammar.maxSubjects)
        (Catalog.commands.map (·.assembled)) ∧
      setup config = .ok ⟨config, a.grammar, a.registry⟩ := by
  obtain ⟨a, records, assembled⟩ :=
    Catalog.assemble_eq config.grammar.culture config.grammar.maxSubjects
  refine ⟨a, records, ?_⟩
  rw [setup, assembled]
  rfl

def builtIn (maxSubjects : Nat) : Grammar where
  culture := "en-US"
  rules := (Catalog.units maxSubjects).rule ::
    (Catalog.commands.map (·.assembled)).filterMap (fun c => c.directObject.map (·.rule)) ++
      [⟨rootRule, .shared, .oneOf ((Catalog.units maxSubjects).reference.mention ::
        (Catalog.commands.map (·.assembled)).map (·.alternative))⟩]
  root := rootRule

theorem interpret_builtIn {a : Assembler} {maxSubjects : Nat}
    (h : a.Records (Catalog.units maxSubjects) (Catalog.commands.map (·.assembled)))
    (utterance : String) :
    a.grammar.interpret utterance = (builtIn maxSubjects).interpret utterance := by
  have rules : a.grammar.rules = (builtIn maxSubjects).rules := by
    simp only [Assembler.grammar, h.ownSubject, h.directObjects, h.alternatives, builtIn]
  apply Grammar.interpret_of_alike
  · rw [rules]
    exact List.forall₂_same.mpr fun r _ => .refl r
  · rfl

def Setup.operations (s : Setup) (keys : List Key) : List KeyOperation :=
  keys.map fun key => ⟨key, .pressAndRelease, s.config.input.keyPressDelay⟩

theorem Setup.spaced_taps (s : Setup) (keys : List Key) :
    KeyOperation.spaced (taps keys) s.config.input.keyPressDelay = s.operations keys :=
  List.map_map

def fulfilled (k : KeyRequest) (ops : List KeyOperation) (lines : List LogLine) (backend : Backend)
    (e : Emulator) : Report where
  effects := lines.map .log ++ [note ("Input injector: " ++ backend.injector.name)]
    ++ [.print ("Resolved " ++ toString ops.length ++ " key operations for " ++ k.command ++ "\n"),
      .print ("You have " ++ toString k.countdown ++ " seconds to focus the game window...\n"),
      .pause k.countdown]
    ++ k.result.order.dispatchLine?.toList.map .log ++ workerEffects backend e
    ++ [.print "Done!\n"]

/-- The request is fulfilled with some keys: a backend that never fails makes just the calls for
them, and their number is told. Sessions that listen send the same for every utterance that is
understood as those of its names that there are. -/
structure Setup.Fulfils (s : Setup) (k : KeyRequest) (d : CommandDefinition) (keys : List Key) :
    Prop where
  requested : ∀ (around : Surroundings) (lines : List LogLine) (backend : Backend),
    Backend.select s.config.input.preferBackend around.session around.tools =
        (lines, .ok backend) →
    backend.injector.Obedient →
    ∃ e, (s.session backend).emulator.send (s.operations keys) = (e, .ok ()) ∧
      e.attempts = keystrokes backend.injector.clicksAtOnce 0 (s.operations keys) ∧
      sendKeys s around k = fulfilled k (s.operations keys) lines backend e
  spoken : ∀ (utterance : String) (r : SemanticResult), s.grammar.interpret utterance = some r →
    Names r (k.subjects.filter (tagged Catalog.subjects)) k.command
      (k.directObject.filter (tagged d.directObjectTags)) →
    ∀ session : Session, session.grammar = s.grammar → session.registry = s.registry →
      session.delay = s.config.input.keyPressDelay → session.state.listening = true →
      session.process (.utterance utterance) =
        match session.emulator.submit (s.operations keys) with
        | .ok (emulator, c) => ({ session.noting r with emulator }, .ok (some c))
        | .error error => (session.noting r, .error error)

theorem Setup.fulfils {s : Setup} {keys : List Key}
    (known : s.registry.contains k.command = true)
    (resolved : s.registry.resolve k.result.order = taps keys)
    (alike : ∀ r, Names r (k.subjects.filter (tagged Catalog.subjects)) k.command
      (k.directObject.filter (tagged d.directObjectTags)) →
        s.registry.resolve r.order = taps keys) :
    s.Fulfils k d keys where
  requested := by
    intro around lines backend selected obedient
    obtain ⟨e, sent, _, performed⟩ := Emulator.send_of_obedient obedient (s.operations keys)
    have attempts := performed.attempts
    rw [List.flatten_singleton] at attempts
    have session : (s.session backend).emulator = { injector := backend.injector } := rfl
    have asked : s.registry.resolveResult k.result (s.session backend).delay =
        s.operations keys := by
      rw [Registry.resolveResult, resolved]
      exact s.spaced_taps keys
    rw [← session] at sent
    refine ⟨e, sent, attempts, ?_⟩
    unfold sendKeys withBackend fulfilled
    simp [known, selected, asked, sent, Report.after]
  spoken := by
    intro utterance r understood names session grammar registry delay listening
    have reading : session.read (.utterance utterance) = .order r := by
      simp only [Session.read, grammar, understood]
    have asked : session.registry.resolveResult r session.delay = s.operations keys := by
      rw [registry, delay, Registry.resolveResult, alike r names, s.spaced_taps]
    have processed := Session.process_of_order reading listening
    rw [asked] at processed
    exact processed

theorem sendKeys_of_unknown {s : Setup} (unknown : s.registry.contains k.command = false)
    (around : Surroundings) :
    sendKeys s around k = .failed ("Unknown command '" ++ k.command ++ "'") := by
  unfold sendKeys
  rw [unknown]
  rfl

def drill : Config where
  input := { preferBackend := "stub" }

def bare : Surroundings where
  file := fun _ => .missing

def lookNorth : KeyRequest where
  command := "WATCH"
  directObject := some "NORTH"
  subjects := ["TWO", "NOBODY", "ONE", "TWO"]

end Cli

end Callout
