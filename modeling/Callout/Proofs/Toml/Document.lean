import Callout.Proofs.Toml.Scalar

namespace Callout.Toml

open Text Text.Parser

inductive Line where
  | blank
  | header (name : String)
  | entry (key : String) (value : Scalar)
  deriving DecidableEq, Repr

def IsBare (name : String) : Prop :=
  name.toList ≠ [] ∧ ∀ c ∈ name.toList, isBareKey c = true

namespace Line

def text : Line → String
  | blank => ""
  | header name => "[" ++ name ++ "]"
  | entry key value => key ++ " = " ++ value.text

def statement? : Line → Option Statement
  | blank => none
  | header name => some (.header [name])
  | entry key value => some (.assign [key] (.scalar value))

def Writable : Line → Prop
  | blank => True
  | header name => IsBare name
  | entry key value => IsBare key ∧ value.Writable

end Line

def document (ls : List Line) : String :=
  String.join (ls.map fun l => l.text ++ "\n")

theorem toList_document (ls : List Line) :
    (document ls).toList = ls.flatMap fun l => l.text.toList ++ ['\n'] := by
  rw [document, String.toList_join, List.flatMap_map]
  apply List.flatMap_congr
  intro l _
  exact String.toList_append

variable {name key : String} {rest : List Char} {c : Char}

theorem IsBare.not_head? (bare : IsBare name) (other : isBareKey c = false) (rest : List Char) :
    c ∉ (name.toList ++ rest).head? := by
  rw [List.head?_append_of_ne_nil _ bare.1]
  intro first
  have accepted := bare.2 c (List.mem_of_mem_head? first)
  rw [other] at accepted
  cases accepted

theorem blanks_append {cs : List Char} (blank : ∀ c ∈ cs, isBlank c = true)
    (stop : ∀ c ∈ rest.head?, isBlank c = false) : blanks (cs ++ rest) = some ((), rest) :=
  bind_of_some (charsWhile_append blank stop)

theorem blanks_of_head? (stop : ∀ c ∈ rest.head?, isBlank c = false) :
    blanks rest = some ((), rest) :=
  bind_of_some (charsWhile_of_head? stop)

theorem isBlank_iff : isBlank c = true ↔ c = ' ' ∨ c = '\t' := by
  rw [isBlank, Bool.or_eq_true_iff, beq_iff_eq, beq_iff_eq]

theorem isBareKey_of_isBlank (blank : isBlank c = true) : isBareKey c = false := by
  rcases isBlank_iff.mp blank with rfl | rfl <;> rfl

theorem IsBare.blanks_eq (bare : IsBare name) (rest : List Char) :
    blanks (name.toList ++ rest) = some ((), name.toList ++ rest) := by
  apply blanks_of_head?
  intro c first
  rw [Bool.eq_false_iff]
  intro blank
  exact bare.not_head? (isBareKey_of_isBlank blank) rest first

theorem simpleKey_append (bare : IsBare name) (stop : ∀ c ∈ rest.head?, isBareKey c = false) :
    simpleKey (name.toList ++ rest) = some (name, rest) := by
  have noBasic : basicString (name.toList ++ rest) = none :=
    basicString_of_head? (bare.not_head? rfl rest)
  have noLiteral : literalString (name.toList ++ rest) = none :=
    bind_of_none (literal_of_head? (c := '\'') rfl (bare.not_head? rfl rest))
  have read := charsWhile1_append bare.1 bare.2 stop
  unfold simpleKey
  rw [firstOf_cons_of_none noBasic, firstOf_cons_of_none noLiteral]
  apply firstOf_cons_of_some
  rw [bind_of_some read, String.ofList_toList]
  rfl

theorem path_append {gap : List Char} (bare : IsBare name) (blank : ∀ c ∈ gap, isBlank c = true)
    (stop : ∀ c ∈ rest.head?, isBareKey c = false ∧ isBlank c = false ∧ c ≠ '.') :
    path (name.toList ++ (gap ++ rest)) = some ([name], rest) := by
  have after : ∀ c ∈ (gap ++ rest).head?, isBareKey c = false := by
    intro c first
    cases gap with
    | nil => exact (stop c first).1
    | cons d gap =>
      obtain rfl : d = c := Option.some.inj first
      exact isBareKey_of_isBlank (blank d List.mem_cons_self)
  have noDot : literal "." rest = none :=
    literal_of_head? (c := '.') rfl fun first => (stop _ first).2.2 rfl
  have read : (do blanks; let key ← simpleKey; blanks; return key : Parser String)
      (name.toList ++ (gap ++ rest)) = some (name, rest) := by
    rw [bind_of_some (bare.blanks_eq _), bind_of_some (simpleKey_append bare after),
      bind_of_some (blanks_append blank fun c first => (stop c first).2.1)]
    rfl
  unfold path
  rw [bind_of_some (sepBy1_single read noDot)]
  rfl

theorem isBlank_text {v : Scalar} (writable : v.Writable) (rest : List Char) :
    ∀ c ∈ (v.text.toList ++ '\n' :: rest).head?, isBlank c = false := by
  cases v with
  | string s =>
    rw [toList_text_string]
    generalize quotingOf s.toList = q
    obtain ⟨escapes, multiline⟩ := q
    cases escapes <;> cases multiline <;> simp [Quoting.write, List.replicate, isBlank]
  | integer n =>
    obtain ⟨m, rfl⟩ := Int.eq_ofNat_of_zero_le writable.1
    intro c first
    rw [toList_text_integer, List.head?_append_of_ne_nil _ Nat.toDigits_ne_nil] at first
    have digit := isDigit_toDigits m c (List.mem_of_mem_head? first)
    rw [Bool.eq_false_iff]
    intro blank
    rcases isBlank_iff.mp blank with rfl | rfl <;> cases digit
  | boolean b => cases b <;> simp [Scalar.text, isBlank]
  | float _ | datetime _ => cases writable

theorem value_append {v : Scalar} (writable : v.Writable) (rest : List Char) (depth : Nat) :
    value depth (v.text.toList ++ '\n' :: rest) = some (.scalar v, '\n' :: rest) := by
  have read := scalar_append writable rest
  cases depth with
  | zero => exact bind_of_some read
  | succ depth => exact firstOf_cons_of_some (bind_of_some read)

theorem statement_header (bare : IsBare name) (rest : List Char) :
    statement ((Line.header name).text.toList ++ '\n' :: rest) =
      some (.header [name], '\n' :: rest) := by
  have text : (Line.header name).text.toList ++ '\n' :: rest =
      '[' :: (name.toList ++ ([] ++ ']' :: '\n' :: rest)) := by
    simp [Line.text]
  have single : literal "[[" ('[' :: (name.toList ++ ([] ++ ']' :: '\n' :: rest))) = none := by
    have other : '[' ∉ (name.toList ++ ([] ++ ']' :: '\n' :: rest)).head? := bare.not_head? rfl _
    have behind : literal "[" (name.toList ++ ([] ++ ']' :: '\n' :: rest)) = none :=
      literal_of_head? (c := '[') rfl other
    exact behind
  have opening : literal "[" ('[' :: (name.toList ++ ([] ++ ']' :: '\n' :: rest))) =
      some ((), name.toList ++ ([] ++ ']' :: '\n' :: rest)) := literal_append "[" _
  have key : path (name.toList ++ ([] ++ ']' :: '\n' :: rest)) =
      some ([name], ']' :: '\n' :: rest) := path_append bare nofun (by simp; decide)
  have closing : literal "]" (']' :: '\n' :: rest) = some ((), '\n' :: rest) := literal_append "]" _
  rw [text]
  unfold statement
  rw [firstOf_cons_of_none (bind_of_none single)]
  apply firstOf_cons_of_some
  rw [bind_of_some opening, bind_of_some key, bind_of_some closing]
  rfl

theorem statement_entry {v : Scalar} (bare : IsBare key) (writable : v.Writable)
    (rest : List Char) : statement ((Line.entry key v).text.toList ++ '\n' :: rest) =
      some (.assign [key] (.scalar v), '\n' :: rest) := by
  have text : (Line.entry key v).text.toList ++ '\n' :: rest =
      key.toList ++ ([' '] ++ '=' :: ([' '] ++ (v.text.toList ++ '\n' :: rest))) := by
    simp [Line.text]
  have noBracket {mark : String} (first : mark.toList.head? = some '[') (rest : List Char) :
      literal mark (key.toList ++ rest) = none :=
    literal_of_head? first (bare.not_head? rfl rest)
  have left : path (key.toList ++ ([' '] ++ '=' :: ([' '] ++ (v.text.toList ++ '\n' :: rest)))) =
      some ([key], '=' :: ([' '] ++ (v.text.toList ++ '\n' :: rest))) :=
    path_append bare (by simp; decide) (by simp; decide)
  have equals : literal "=" ('=' :: ([' '] ++ (v.text.toList ++ '\n' :: rest))) =
      some ((), [' '] ++ (v.text.toList ++ '\n' :: rest)) := literal_append "=" _
  have gap : blanks ([' '] ++ (v.text.toList ++ '\n' :: rest)) =
      some ((), v.text.toList ++ '\n' :: rest) :=
    blanks_append (by simp; decide) (isBlank_text writable rest)
  rw [text]
  unfold statement
  rw [firstOf_cons_of_none (bind_of_none (noBracket rfl _)),
    firstOf_cons_of_none (bind_of_none (noBracket rfl _))]
  apply firstOf_cons_of_some
  have read : entry (value maxNesting)
      (key.toList ++ ([' '] ++ '=' :: ([' '] ++ (v.text.toList ++ '\n' :: rest)))) =
      some (([key], .scalar v), '\n' :: rest) := by
    unfold entry
    rw [bind_of_some left, bind_of_some equals, bind_of_some gap,
      bind_of_some (value_append writable rest maxNesting)]
    rfl
  rw [bind_of_some read]
  rfl

theorem statement_of_head? (stop : ∀ c ∈ rest.head?, c = '\n') : statement rest = none := by
  have other {c : Char} (apart : c ≠ '\n') : c ∉ rest.head? := fun first => apart (stop c first)
  have noKey : simpleKey rest = none := by
    have noBasic : basicString rest = none := basicString_of_head? (other (by decide))
    have noLiteral : literalString rest = none :=
      bind_of_none (literal_of_head? (c := '\'') rfl (other (by decide)))
    have noBare : charsWhile1 isBareKey rest = none := by
      apply charsWhile1_of_head?
      intro c first
      rw [stop c first]
      rfl
    unfold simpleKey
    rw [firstOf_cons_of_none noBasic, firstOf_cons_of_none noLiteral,
      firstOf_cons_of_none (bind_of_none noBare)]
    rfl
  have noPath : path rest = none := by
    have noBlanks : blanks rest = some ((), rest) := by
      apply blanks_of_head?
      intro c first
      rw [stop c first]
      rfl
    apply bind_of_none
    apply bind_of_none
    rw [bind_of_some noBlanks]
    exact bind_of_none noKey
  have noMark {mark : String} (first : mark.toList.head? = some '[') : literal mark rest = none :=
    literal_of_head? first (other (by decide))
  have noEntry : entry (value maxNesting) rest = none := bind_of_none noPath
  unfold statement
  rw [firstOf_cons_of_none (bind_of_none (noMark rfl)),
    firstOf_cons_of_none (bind_of_none (noMark rfl)),
    firstOf_cons_of_none (bind_of_none noEntry)]
  rfl

theorem line_of_optional {cs : List Char} {s : Option Statement}
    (start : ∀ c ∈ cs.head?, isBlank c = false)
    (read : Parser.optional statement cs = some (s, rest))
    (stop : ∀ c ∈ rest.head?, c = '\n') : line cs = some (s, rest) := by
  have ends : blanks rest = some ((), rest) := by
    apply blanks_of_head?
    intro c first
    rw [stop c first]
    rfl
  have noComment : comment rest = none := by
    apply bind_of_none
    apply literal_of_head? (c := '#') rfl
    intro first
    cases stop _ first
  unfold line
  rw [bind_of_some (blanks_of_head? start), bind_of_some read, bind_of_some ends,
    bind_of_some (optionally_of_none noComment)]
  rfl

theorem line_of_end (stop : ∀ c ∈ rest.head?, c = '\n') : line rest = some (none, rest) := by
  refine line_of_optional ?_ (optional_of_none (statement_of_head? stop)) stop
  intro c first
  rw [stop c first]
  rfl

theorem head?_text {l : Line} (writable : l.Writable) (rest : List Char) :
    ∀ c ∈ (l.text.toList ++ '\n' :: rest).head?, c = '\n' ∨ c = '[' ∨ isBareKey c = true := by
  intro c first
  cases l with
  | blank => exact .inl (Option.some.inj first).symm
  | header name =>
    have bracket : ((Line.header name).text.toList ++ '\n' :: rest).head? = some '[' := by
      simp [Line.text]
    rw [bracket] at first
    exact .inr (.inl (Option.some.inj first).symm)
  | entry key v =>
    have text : (Line.entry key v).text.toList = key.toList ++ (" = " ++ v.text).toList := by
      simp [Line.text]
    rw [text, List.append_assoc] at first
    refine .inr (.inr ?_)
    rw [← Bool.not_eq_false]
    intro other
    exact writable.1.not_head? other _ first

theorem line_append {l : Line} (writable : l.Writable) (rest : List Char) :
    line (l.text.toList ++ '\n' :: rest) = some (l.statement?, '\n' :: rest) := by
  have start : ∀ c ∈ (l.text.toList ++ '\n' :: rest).head?, isBlank c = false := by
    intro c first
    rw [Bool.eq_false_iff]
    intro blank
    rcases head?_text writable rest c first with rfl | rfl | bare
    · cases blank
    · cases blank
    · rw [isBareKey_of_isBlank blank] at bare
      cases bare
  have stop : ∀ c ∈ ('\n' :: rest).head?, c = '\n' :=
    fun c first => (Option.some.inj first).symm
  cases l with
  | blank => exact line_of_end stop
  | header name =>
    have read := statement_header writable rest
    exact line_of_optional start (optional_of_some read) stop
  | entry key v =>
    have read := statement_entry writable.1 writable.2 rest
    exact line_of_optional start (optional_of_some read) stop

theorem newline_append (rest : List Char) : newline ('\n' :: rest) = some ((), rest) :=
  orElse_of_some (literal_append "\n" rest)

theorem repeats_lines {ls : List Line} (writable : ∀ l ∈ ls, l.Writable) :
    Repeats (do newline; line) ('\n' :: ls.flatMap fun l => l.text.toList ++ ['\n'])
      (ls.map Line.statement? ++ [none]) [] := by
  induction ls with
  | nil =>
    have last : (do newline; line : Parser (Option Statement)) ['\n'] = some (none, []) := by
      rw [bind_of_some (newline_append [])]
      exact line_of_end (by simp)
    exact .step last (by simp) (.stop (bind_of_none rfl))
  | cons l ls ih =>
    obtain ⟨first, others⟩ := List.forall_mem_cons.mp writable
    rw [List.flatMap_cons, List.append_assoc, List.map_cons, List.cons_append]
    refine .step ?_ ?_ (ih others)
    · rw [bind_of_some (newline_append _)]
      exact line_append first _
    · simp only [List.length_append, List.length_cons]
      omega

theorem sepBy1_lines {ls : List Line} (writable : ∀ l ∈ ls, l.Writable) :
    sepBy1 line newline (document ls).toList = some (ls.map Line.statement? ++ [none], []) := by
  rw [toList_document]
  unfold sepBy1
  cases ls with
  | nil =>
    have last : many (do newline; line : Parser (Option Statement)) [] = some ([], []) :=
      Repeats.many_eq (.stop (bind_of_none rfl))
    rw [List.flatMap_nil, bind_of_some (line_of_end (by simp)), bind_of_some last]
    rfl
  | cons l ls =>
    obtain ⟨first, others⟩ := List.forall_mem_cons.mp writable
    rw [List.flatMap_cons, List.append_assoc, List.singleton_append,
      bind_of_some (line_append first _), bind_of_some (repeats_lines others).many_eq]
    rfl

theorem statements_document {ls : List Line} (writable : ∀ l ∈ ls, l.Writable) :
    run? statements (document ls).toList = some (ls.filterMap Line.statement?) := by
  have noMark : literal "\ufeff" (document ls).toList = none := by
    apply literal_of_head? (c := '\ufeff') rfl
    rw [toList_document]
    -- A byte order mark would be the start of a line, and no line starts with one.
    cases ls with
    | nil => exact nofun
    | cons l ls =>
      intro first
      rw [List.flatMap_cons, List.append_assoc, List.singleton_append] at first
      exact absurd (head?_text (writable l List.mem_cons_self) _ _ first) (by decide)
  have read : statements (document ls).toList = some (ls.filterMap Line.statement?, []) := by
    unfold statements
    rw [bind_of_some (optionally_of_none noMark), bind_of_some (sepBy1_lines writable)]
    have stated : (ls.map Line.statement? ++ [none]).filterMap id =
        ls.filterMap Line.statement? := by
      simp
    rw [stated]
    rfl
  rw [run?, read]

end Callout.Toml
