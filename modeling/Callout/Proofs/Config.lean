import Callout.Config.File
import Callout.Proofs.Text.Utf8
import Callout.Proofs.Toml.Sections

namespace Callout

open Toml

namespace Config

variable {c : Config} {kept : Selection} {path : String} {file : FileState}

def restored (kept : Selection) (c : Config) : Config :=
  let field {α : Type} (name key : String) (value default : α) : α :=
    if kept.keeps name key then value else default
  let d : Config := {}
  { input :=
      { keyPressDelay :=
          field "input" "key_press_delay_ms" c.input.keyPressDelay d.input.keyPressDelay
        preferBackend :=
          field "input" "prefer_backend" c.input.preferBackend d.input.preferBackend }
    grammar :=
      { culture := field "grammar" "culture" c.grammar.culture d.grammar.culture
        maxSubjects := field "grammar" "max_subjects" c.grammar.maxSubjects d.grammar.maxSubjects }
    recognition :=
      { startListening := field "recognition" "start_listening" c.recognition.startListening
          d.recognition.startListening } }

def inputSection (i : InputConfig) : Section :=
  ⟨"input", [("key_press_delay_ms", .integer i.keyPressDelay),
    ("prefer_backend", .string i.preferBackend)]⟩

def grammarSection (g : GrammarConfig) : Section :=
  ⟨"grammar", [("culture", .string g.culture), ("max_subjects", .integer g.maxSubjects)]⟩

def recognitionSection (r : RecognitionConfig) : Section :=
  ⟨"recognition", [("start_listening", .boolean r.startListening)]⟩

theorem sections_eq (c : Config) : c.sections =
    [inputSection c.input, grammarSection c.grammar, recognitionSection c.recognition] := rfl

theorem unrepeated_sections (c : Config) : Unrepeated c.sections where
  names := by
    show ["input", "grammar", "recognition"].Nodup
    decide
  keys := by
    rw [sections_eq, List.forall_mem_cons, List.forall_mem_cons, List.forall_mem_singleton]
    refine ⟨?_, ?_, List.nodup_singleton _⟩
    · show ["key_press_delay_ms", "prefer_backend"].Nodup
      decide
    · show ["culture", "max_subjects"].Nodup
      decide

theorem isBare_names : ∀ name ∈ ["input", "key_press_delay_ms", "prefer_backend", "grammar",
    "culture", "max_subjects", "recognition", "start_listening"], IsBare name := by
  simp [IsBare, isBareKey]

theorem writable_sections (delay : c.input.keyPressDelay ≤ maxInteger)
    (subjects : c.grammar.maxSubjects ≤ 0xFFFFFFFF) : ∀ s ∈ c.sections, s.Writable := by
  have delay' : (Scalar.integer c.input.keyPressDelay).Writable :=
    ⟨Int.natCast_nonneg _, Int.ofNat_le.mpr delay⟩
  have subjects' : (Scalar.integer c.grammar.maxSubjects).Writable :=
    ⟨Int.natCast_nonneg _, Int.ofNat_le.mpr (Nat.le_trans subjects (by decide))⟩
  have bare := isBare_names
  simp only [List.forall_mem_cons] at bare
  obtain ⟨input, delayKey, backendKey, grammar, cultureKey, subjectsKey, recognition, startKey,
    -⟩ := bare
  rw [sections_eq, List.forall_mem_cons, List.forall_mem_cons, List.forall_mem_singleton]
  refine ⟨⟨input, ?_⟩, ⟨grammar, ?_⟩, ⟨recognition, ?_⟩⟩
  · simpa [inputSection] using ⟨⟨delayKey, delay'⟩, backendKey, trivial⟩
  · simpa [grammarSection] using ⟨⟨cultureKey, trivial⟩, subjectsKey, subjects'⟩
  · simpa [recognitionSection] using ⟨startKey, trivial⟩

def lines (c : Config) : List Line :=
  linesOf c.sections

theorem write?_eq (delay : c.input.keyPressDelay ≤ maxInteger) :
    c.write? = some (document c.lines) := by
  rw [write?, if_pos delay, render_eq, lines]

theorem natural?_eq {n most : Nat} (small : n ≤ most) :
    natural? most (.scalar (.integer n)) = some n := by
  rw [natural?, if_pos ⟨Int.natCast_nonneg n, Int.ofNat_le.mpr small⟩, Int.toNat_natCast]

theorem string?_eq (s : String) : string? (.scalar (.string s)) = some s := rfl

theorem boolean?_eq (b : Bool) : boolean? (.scalar (.boolean b)) = some b := rfl

theorem readOr_ite {α : Type} {default a : α} {read : Value → Option α} {v : Value} (b : Bool)
    (fine : read v = some a) :
    readOr default read (if b then some v else none) = some (if b then a else default) := by
  cases b with
  | true => exact fine
  | false => rfl

theorem readOr_within {α : Type} {default a : α} {read : Value → Option α} {s : Section}
    {v : Scalar} (key : String) (entry : s.entries.lookup key = some v)
    (fine : read (.scalar v) = some a) :
    readOr default read ((kept.within s).table.lookup key) =
      some (if kept.entries s.name key then a else default) := by
  rw [Selection.lookup_table_within, entry]
  exact readOr_ite _ fine

theorem readOr_apply {α : Type} {default a : α} {read : Value → Option α} {ss : List Section}
    {s : Section} {name : String} (named : (ss.map fun s => (s.name, s)).lookup name = some s)
    (fine : read (.table .explicit (kept.within s).table) = some a) :
    readOr default read ((tableOf (kept.apply ss)).lookup name) =
      some (if kept.sections name then a else default) := by
  rw [Selection.lookup_tableOf_apply, named]
  exact readOr_ite _ fine

theorem readInput?_within {i : InputConfig} (delay : i.keyPressDelay ≤ maxInteger) :
    readInput? (.table .explicit (kept.within (inputSection i)).table) = some
      { keyPressDelay := if kept.entries "input" "key_press_delay_ms" then i.keyPressDelay else 50
        preferBackend :=
          if kept.entries "input" "prefer_backend" then i.preferBackend else "auto" } := by
  have small : i.keyPressDelay ≤ 0xFFFFFFFFFFFFFFFF := Nat.le_trans delay (by decide)
  simp only [readInput?, isSection, field?, Bool.not_true, Bool.false_eq_true, if_false,
    readOr_within (s := inputSection i) "key_press_delay_ms" rfl (natural?_eq small),
    readOr_within (s := inputSection i) "prefer_backend" rfl (string?_eq _)]
  rfl

theorem readGrammar?_within {g : GrammarConfig} (subjects : g.maxSubjects ≤ 0xFFFFFFFF) :
    readGrammar? (.table .explicit (kept.within (grammarSection g)).table) = some
      { culture := if kept.entries "grammar" "culture" then g.culture else "en-US"
        maxSubjects := if kept.entries "grammar" "max_subjects" then g.maxSubjects else 10 } := by
  simp only [readGrammar?, isSection, field?, Bool.not_true, Bool.false_eq_true, if_false,
    readOr_within (s := grammarSection g) "culture" rfl (string?_eq _),
    readOr_within (s := grammarSection g) "max_subjects" rfl (natural?_eq subjects)]
  rfl

theorem readRecognition?_within (r : RecognitionConfig) :
    readRecognition? (.table .explicit (kept.within (recognitionSection r)).table) = some
      { startListening :=
          if kept.entries "recognition" "start_listening" then r.startListening else true } := by
  simp only [readRecognition?, isSection, field?, Bool.not_true, Bool.false_eq_true, if_false,
    readOr_within (s := recognitionSection r) "start_listening" rfl (boolean?_eq _)]
  rfl

theorem ofTable?_kept (delay : c.input.keyPressDelay ≤ maxInteger)
    (subjects : c.grammar.maxSubjects ≤ 0xFFFFFFFF) :
    ofTable? (tableOf (kept.apply c.sections)) = some (restored kept c) := by
  have input : readOr {} readInput? ((tableOf (kept.apply c.sections)).lookup "input") =
      some (restored kept c).input := by
    rw [readOr_apply rfl (readInput?_within delay)]
    cases named : kept.sections "input" <;> simp [restored, Selection.keeps, named]
  have grammar : readOr {} readGrammar? ((tableOf (kept.apply c.sections)).lookup "grammar") =
      some (restored kept c).grammar := by
    rw [readOr_apply rfl (readGrammar?_within subjects)]
    cases named : kept.sections "grammar" <;> simp [restored, Selection.keeps, named]
  have recognition : readOr {} readRecognition?
      ((tableOf (kept.apply c.sections)).lookup "recognition") =
      some (restored kept c).recognition := by
    rw [readOr_apply rfl (readRecognition?_within c.recognition)]
    cases named : kept.sections "recognition" <;> simp [restored, Selection.keeps, named]
  simp only [ofTable?, input, grammar, recognition]
  rfl

theorem load_document {ls : List Line} (delay : c.input.keyPressDelay ≤ maxInteger)
    (subjects : c.grammar.maxSubjects ≤ 0xFFFFFFFF) (lists : Lists ls (kept.apply c.sections)) :
    (load path).run (.ofText (document ls)) = .ok (restored kept c) (.ofText (document ls)) := by
  have parsed : parse? (document ls) = some (restored kept c) := by
    have table : Toml.parse? (document ls) = some (tableOf (kept.apply c.sections)) :=
      parse?_document (Selection.unrepeated_apply c.unrepeated_sections)
        (Selection.writable_apply (writable_sections delay subjects)) lists
    rw [parse?, table]
    exact ofTable?_kept delay subjects
  simp only [load, FileState.ofText, EStateM.run_bind, EStateM.run_get, Text.decode_toUTF8, parsed]
  rfl

theorem makeDirectory_of_ne (reachable : file ≠ .belowFile) :
    makeDirectory.run file = .ok () file := by
  simp [makeDirectory, reachable]

theorem writeText_of_ne (text : String) (noDirectory : file ≠ .directory)
    (reachable : file ≠ .belowFile) : (writeText path text).run file = .ok () (.ofText text) := by
  cases file with
  | missing => rfl
  | bytes content => rfl
  | directory => contradiction
  | belowFile => contradiction

theorem save_eq_ok (delay : c.input.keyPressDelay ≤ maxInteger) (noDirectory : file ≠ .directory)
    (reachable : file ≠ .belowFile) :
    (save path c).run file = .ok () (.ofText (document c.lines)) := by
  rw [save, EStateM.run_bind, makeDirectory_of_ne reachable, write?_eq delay]
  exact writeText_of_ne _ noDirectory reachable

/-- Settings that have no document are refused before the file is touched. -/
theorem save_eq_error (delay : maxInteger < c.input.keyPressDelay) (path : String)
    (file : FileState) : ∃ e, (save path c).run file = .error e file := by
  have unwritten : c.write? = none := if_neg (Nat.not_le.mpr delay)
  rw [save, EStateM.run_bind, unwritten]
  by_cases below : file = .belowFile
  · subst below
    exact ⟨.noDirectory, rfl⟩
  · rw [makeDirectory_of_ne below]
    exact ⟨.unrepresentable, rfl⟩

/-- Settings are read back as they were saved, and with the defaults for what is deleted from the
document. Those that have no document leave the file as it was. -/
theorem load_afterSave (path : String) (c : Config)
    (subjects : c.grammar.maxSubjects ≤ 0xFFFFFFFF) :
    (c.input.keyPressDelay ≤ maxInteger →
      ∀ file, file ≠ .directory → file ≠ .belowFile →
        (save path c).run file = .ok () (.ofText (document c.lines)) ∧
        (load path).run (.ofText (document c.lines)) = .ok c (.ofText (document c.lines)) ∧
        ∀ kept ls, Lists ls (kept.apply c.sections) →
          (load path).run (.ofText (document ls)) =
            .ok (restored kept c) (.ofText (document ls))) ∧
    (maxInteger < c.input.keyPressDelay →
      ∀ file, ∃ e, (save path c).run file = .error e file) := by
  constructor
  · intro delay file noDirectory reachable
    -- Nothing is deleted from what was saved.
    have complete : Lists c.lines (Selection.all.apply c.sections) := by
      rw [Selection.all_apply]
      exact lists_linesOf c.sections
    exact ⟨save_eq_ok delay noDirectory reachable, load_document delay subjects complete,
      fun kept ls lists => load_document delay subjects lists⟩
  · intro delay file
    exact save_eq_error delay path file

def awkward : Config where
  input := { keyPressDelay := maxInteger, preferBackend := "x\"\"\"\n'\\\x01" }
  grammar := { culture := "'\t\"", maxSubjects := 0xFFFFFFFF }
  recognition := { startListening := false }

def awkwardLines : List Line :=
  [.header "input", .entry "key_press_delay_ms" (.integer maxInteger), .blank, .header "grammar",
    .entry "culture" (.string "'\t\""), .entry "max_subjects" (.integer 0xFFFFFFFF), .blank]

theorem load_afterSave_awkward :
    (save "a" awkward).run .missing = .ok () (.ofText (document awkward.lines)) ∧
    (load "a").run (.ofText (document awkward.lines)) =
      .ok awkward (.ofText (document awkward.lines)) ∧
    (load "a").run (.ofText (document awkwardLines)) = .ok
      { awkward with
        input := { keyPressDelay := maxInteger, preferBackend := "auto" }, recognition := {} }
      (.ofText (document awkwardLines)) ∧
    ∃ e, (save "a" { input := { keyPressDelay := maxInteger + 1 } }).run (.bytes [0x61]) =
      .error e (.bytes [0x61]) := by
  let kept : Selection := ⟨fun name => name != "recognition", fun _ key => key != "prefer_backend"⟩
  obtain ⟨saved, whole, parts⟩ :=
    (load_afterSave "a" awkward (by decide)).1 (Nat.le_refl _) .missing nofun nofun
  have refused := (load_afterSave "a" { input := { keyPressDelay := maxInteger + 1 } }
    (by decide)).2 (Nat.lt_succ_self _) (.bytes [0x61])
  have lists : Lists awkwardLines (kept.apply awkward.sections) := by decide
  exact ⟨saved, whole, parts kept awkwardLines lists, refused⟩

end Config

end Callout
