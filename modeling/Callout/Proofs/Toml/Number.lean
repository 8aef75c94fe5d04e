import Callout.Proofs.Text.Parser
import Callout.Toml.Datetime
import Callout.Toml.Number
import Mathlib.Data.List.Basic

namespace Callout.Toml

open Text Text.Parser

theorem isDigit_toDigits (n : Nat) : ∀ c ∈ Nat.toDigits 10 n, isDigit c = true := by
  intro c member
  have digit := Nat.isDigit_of_mem_toDigits (by decide) (by decide) member
  simpa [isDigit, Char.isDigit, Char.le_def] using digit

theorem hexValue?_digit {c : Char} (digit : isDigit c = true) :
    hexValue? c = some (c.toNat - '0'.toNat) := by
  have range : '0' ≤ c ∧ c ≤ '9' := by simpa [isDigit] using digit
  exact if_pos range

theorem ofDigits_toDigits (n : Nat) : ofDigits 10 (Nat.toDigits 10 n) = n := by
  have value : ofDigits 10 (Nat.toDigits 10 n) = Nat.ofDigitChars 10 (Nat.toDigits 10 n) 0 := by
    rw [Nat.ofDigitChars_eq_foldl, ofDigits]
    apply List.foldl_ext
    intro m c member
    rw [hexValue?_digit (isDigit_toDigits n c member), Option.getD_some, Nat.mul_comm]
  rw [value, Nat.ofDigitChars_ten_toDigits]

theorem head?_toDigits {n : Nat} (positive : 0 < n) : '0' ∉ (Nat.toDigits 10 n).head? := by
  have digits : ∀ n < 10, 0 < n → '0' ∉ [n.digitChar].head? := by decide
  induction n using Nat.strongRecOn with
  | ind n ih =>
    by_cases small : n < 10
    · rw [Nat.toDigits_of_lt_base small]
      exact digits n small positive
    · rw [Nat.toDigits_of_base_le (by decide) (by omega),
        List.head?_append_of_ne_nil _ Nat.toDigits_ne_nil]
      exact ih (n / 10) (by omega) (by omega)

def numberMarks : List Char :=
  ['_', '-', '+', ':', '.', 'e', 'E', 'x', 'o', 'b', 'i', 'n']

def EndsNumber (rest : List Char) : Prop :=
  ∀ c ∈ rest.head?, isDigit c = false ∧ c ∉ numberMarks

variable {ds rest : List Char} {mark : String} {c : Char} {n : Nat}

theorem EndsNumber.stop (ends : EndsNumber rest) : ∀ c ∈ rest.head?, isDigit c = false :=
  fun c first => (ends c first).1

theorem EndsNumber.literal_drop (ends : EndsNumber rest) (digits : ∀ d ∈ ds, isDigit d = true)
    (first : mark.toList.head? = some c) (marks : isDigit c = false ∧ c ∈ numberMarks) (n : Nat) :
    literal mark (ds.drop n ++ rest) = none := by
  apply literal_of_head? first
  intro here
  cases left : ds.drop n with
  | nil =>
    rw [left, List.nil_append] at here
    exact (ends c here).2 marks.2
  | cons d others =>
    rw [left] at here
    obtain rfl : d = c := Option.some.inj here
    have digit := digits d (List.mem_of_mem_drop (left ▸ List.mem_cons_self))
    rw [marks.1] at digit
    cases digit

theorem EndsNumber.literal_none (ends : EndsNumber rest) (first : mark.toList.head? = some c)
    (marks : c ∈ numberMarks) : literal mark rest = none :=
  literal_of_head? first fun here => (ends c here).2 marks

theorem sign_append (ends : EndsNumber rest) (digits : ∀ d ∈ ds, isDigit d = true) :
    sign (ds ++ rest) = some (false, ds ++ rest) := by
  have minus : literal "-" (ds ++ rest) = none :=
    ends.literal_drop digits (c := '-') rfl (by decide) 0
  have plus : literal "+" (ds ++ rest) = none :=
    ends.literal_drop digits (c := '+') rfl (by decide) 0
  unfold sign
  rw [firstOf_cons_of_none (bind_of_none minus), firstOf_cons_of_none (bind_of_none plus)]
  exact firstOf_cons_of_some rfl

theorem digitRun_append (ends : EndsNumber rest) (filled : ds ≠ [])
    (digits : ∀ d ∈ ds, isDigit d = true) : digitRun isDigit (ds ++ rest) = some (ds, rest) := by
  obtain ⟨d, ds, rfl⟩ := List.exists_cons_of_ne_nil filled
  obtain ⟨first, others⟩ := List.forall_mem_cons.mp digits
  have reads : ∀ d ∈ ds, ∀ rest,
      (do optionally (literal "_"); char isDigit : Parser Char) ([d] ++ rest) = some (d, rest) := by
    intro d member rest
    have digit := others d member
    have noMark : literal "_" ([d] ++ rest) = none := by
      apply literal_of_head? (c := '_') rfl
      intro here
      obtain rfl : d = '_' := Option.some.inj here
      cases digit
    rw [bind_of_some (optionally_of_none noMark)]
    exact char_cons digit rest
  have stops : (do optionally (literal "_"); char isDigit : Parser Char) rest = none := by
    have noMark : literal "_" rest = none := ends.literal_none (c := '_') rfl (by decide)
    rw [bind_of_some (optionally_of_none noMark)]
    exact char_of_head? ends.stop
  have run := many_append reads (by simp) stops
  rw [List.flatMap_singleton'] at run
  unfold digitRun
  rw [List.cons_append, bind_of_some (char_cons first _), bind_of_some run]
  rfl

theorem digitRun_of_head? (stop : ∀ c ∈ rest.head?, isDigit c = false) :
    digitRun isDigit rest = none :=
  bind_of_none (char_of_head? stop)

theorem wholeDigits_append (ends : EndsNumber rest) (n : Nat) :
    wholeDigits (Nat.toDigits 10 n ++ rest) = some (Nat.toDigits 10 n, rest) := by
  have digits := isDigit_toDigits n
  unfold wholeDigits
  rcases Nat.eq_zero_or_pos n with rfl | positive
  · rw [Nat.toDigits_zero]
    have zero : ahead (char (· ≠ '0')) (['0'] ++ rest) = none := ahead_of_none rfl
    rw [orElse_of_none (bind_of_none zero)]
    exact bind_of_some (char_cons rfl rest)
  · obtain ⟨d, ds, shape⟩ := List.exists_cons_of_ne_nil (Nat.toDigits_ne_nil (n := n) (b := 10))
    have other : d ≠ '0' := by
      rintro rfl
      exact head?_toDigits positive (by rw [shape]; rfl)
    have ready : ahead (char (· ≠ '0')) (Nat.toDigits 10 n ++ rest) =
        some ((), Nat.toDigits 10 n ++ rest) := by
      rw [shape]
      exact ahead_of_some (char_cons (by simpa using other) _)
    apply orElse_of_some
    rw [bind_of_some ready]
    exact digitRun_append ends Nat.toDigits_ne_nil digits

theorem wholeDigits_of_head? (stop : ∀ c ∈ rest.head?, isDigit c = false) :
    wholeDigits rest = none := by
  have noRun : (do ahead (char (· ≠ '0')); digitRun isDigit : Parser (List Char)) rest = none := by
    cases ready : ahead (char (· ≠ '0')) rest with
    | none => exact bind_of_none ready
    | some r =>
      obtain rfl := ahead_eq_some ready
      rw [bind_of_some ready]
      exact digitRun_of_head? stop
  have noZero : char (· == '0') rest = none := by
    apply char_of_head?
    intro c first
    rw [beq_eq_false_iff_ne]
    rintro rfl
    cases stop _ first
  unfold wholeDigits
  rw [orElse_of_none noRun]
  exact bind_of_none noZero

theorem decimalInteger_append (ends : EndsNumber rest) (most : n ≤ maxInteger) :
    decimalInteger (Nat.toDigits 10 n ++ rest) = some ((n : Int), rest) := by
  unfold decimalInteger
  rw [bind_of_some (sign_append ends (isDigit_toDigits n)),
    bind_of_some (wholeDigits_append ends n), ofDigits_toDigits]
  simp only [Bool.false_eq_true, if_false, if_pos most]
  rfl

theorem literal_based (ends : EndsNumber rest) (word : mark.toList = ['0', c])
    (marks : c ∈ numberMarks) (n : Nat) : literal mark (Nat.toDigits 10 n ++ rest) = none := by
  rcases Nat.eq_zero_or_pos n with rfl | positive
  · have behind : exactly [c] rest = none := by
      cases rest with
      | nil => rfl
      | cons d rest =>
        have apart : d ≠ c := by
          rintro rfl
          exact (ends d rfl).2 marks
        exact if_neg apart
    rw [Nat.toDigits_zero, literal, word]
    exact behind
  · apply literal_of_head? (c := '0') (by rw [word]; rfl)
    rw [List.head?_append_of_ne_nil _ Nat.toDigits_ne_nil]
    exact head?_toDigits positive

theorem integer_append (ends : EndsNumber rest) (most : n ≤ maxInteger) :
    integer (Nat.toDigits 10 n ++ rest) = some ((n : Int), rest) := by
  have hex : literal "0x" (Nat.toDigits 10 n ++ rest) = none :=
    literal_based ends (c := 'x') rfl (by decide) n
  have octal : literal "0o" (Nat.toDigits 10 n ++ rest) = none :=
    literal_based ends (c := 'o') rfl (by decide) n
  have binary : literal "0b" (Nat.toDigits 10 n ++ rest) = none :=
    literal_based ends (c := 'b') rfl (by decide) n
  unfold integer basedInteger
  rw [firstOf_cons_of_none (bind_of_none hex), firstOf_cons_of_none (bind_of_none octal),
    firstOf_cons_of_none (bind_of_none binary)]
  exact firstOf_cons_of_some (decimalInteger_append ends most)

theorem integer_of_ends (ends : EndsNumber rest) : integer rest = none := by
  have based {mark : String} (zero : mark.toList.head? = some '0') : literal mark rest = none := by
    apply literal_of_head? zero
    intro first
    cases ends.stop _ first
  have hex : literal "0x" rest = none := based rfl
  have octal : literal "0o" rest = none := based rfl
  have binary : literal "0b" rest = none := based rfl
  have unsigned : sign rest = some (false, rest) := @sign_append [] rest ends nofun
  have decimal : decimalInteger rest = none := by
    unfold decimalInteger
    rw [bind_of_some unsigned]
    exact bind_of_none (wholeDigits_of_head? ends.stop)
  unfold integer basedInteger
  rw [firstOf_cons_of_none (bind_of_none hex), firstOf_cons_of_none (bind_of_none octal),
    firstOf_cons_of_none (bind_of_none binary), firstOf_cons_of_none decimal]
  rfl

theorem decimalFloat_append (ends : EndsNumber rest) (digits : ∀ d ∈ ds, isDigit d = true)
    (whole : wholeDigits (ds ++ rest) = none ∨ wholeDigits (ds ++ rest) = some (ds, rest)) :
    decimalFloat (ds ++ rest) = none := by
  have noPoint : literal "." rest = none := ends.literal_none (c := '.') rfl (by decide)
  have noExponent : exponent rest = none := by
    apply bind_of_none
    apply char_of_head?
    intro c first
    have marks := (ends c first).2
    rw [Bool.or_eq_false_iff, beq_eq_false_iff_ne, beq_eq_false_iff_ne]
    constructor <;> (rintro rfl; exact marks (by decide))
  have noFraction : Parser.optional (do literal "."; digitRun isDigit) rest = some (none, rest) :=
    optional_of_none (bind_of_none noPoint)
  unfold decimalFloat
  rw [bind_of_some (sign_append ends digits)]
  rcases whole with refused | read
  · exact bind_of_none refused
  · rw [bind_of_some read, bind_of_some noFraction]
    exact bind_of_none (bind_of_none noExponent)

theorem specialFloat_append (ends : EndsNumber rest) (digits : ∀ d ∈ ds, isDigit d = true) :
    specialFloat (ds ++ rest) = none := by
  have infinite : literal "inf" (ds ++ rest) = none :=
    ends.literal_drop digits (c := 'i') rfl (by decide) 0
  have undefined : literal "nan" (ds ++ rest) = none :=
    ends.literal_drop digits (c := 'n') rfl (by decide) 0
  unfold specialFloat
  rw [bind_of_some (sign_append ends digits), orElse_of_none infinite]
  exact undefined

theorem float_append (ends : EndsNumber rest) (digits : ∀ d ∈ ds, isDigit d = true)
    (whole : wholeDigits (ds ++ rest) = none ∨ wholeDigits (ds ++ rest) = some (ds, rest)) :
    float (ds ++ rest) = none := by
  have refused : orElse decimalFloat specialFloat (ds ++ rest) = none := by
    rw [orElse_of_none (decimalFloat_append ends digits whole)]
    exact specialFloat_append ends digits
  rw [float, written, refused]

theorem fixedNumber_cases (ends : EndsNumber rest) (digits : ∀ d ∈ ds, isDigit d = true) (n : Nat) :
    fixedNumber n (ds ++ rest) = none ∨
      ∃ m, fixedNumber n (ds ++ rest) = some (m, ds.drop n ++ rest) := by
  have read := upTo_char (n := n) digits fun _ => ends.stop
  unfold fixedNumber
  rw [bind_of_some read]
  split_ifs
  · exact .inr ⟨_, rfl⟩
  · exact .inl rfl

theorem numberBetween_cases (ends : EndsNumber rest) (digits : ∀ d ∈ ds, isDigit d = true)
    (lo hi : Nat) : numberBetween lo hi (ds ++ rest) = none ∨
      ∃ m, numberBetween lo hi (ds ++ rest) = some (m, ds.drop 2 ++ rest) := by
  unfold numberBetween
  rcases fixedNumber_cases ends digits 2 with refused | ⟨m, read⟩
  · exact .inl (bind_of_none refused)
  · rw [bind_of_some read]
    split_ifs
    · exact .inr ⟨m, rfl⟩
    · exact .inl rfl

theorem datetime_append (ends : EndsNumber rest) (digits : ∀ d ∈ ds, isDigit d = true) :
    datetime (ds ++ rest) = none := by
  have noDash : literal "-" (ds.drop 4 ++ rest) = none :=
    ends.literal_drop digits (c := '-') rfl (by decide) 4
  have noColon : literal ":" (ds.drop 2 ++ rest) = none :=
    ends.literal_drop digits (c := ':') rfl (by decide) 2
  have noDate : date (ds ++ rest) = none := by
    unfold date
    rcases fixedNumber_cases ends digits 4 with refused | ⟨m, read⟩
    · exact bind_of_none refused
    · rw [bind_of_some read]
      exact bind_of_none noDash
  have noTime : time (ds ++ rest) = none := by
    unfold time
    rcases numberBetween_cases ends digits 0 23 with refused | ⟨m, read⟩
    · exact bind_of_none refused
    · rw [bind_of_some read]
      exact bind_of_none noColon
  unfold datetime written
  rw [orElse_of_none (bind_of_none noDate), noTime]

end Callout.Toml
