import Callout.Proofs.Toml.Number
import Callout.Proofs.Toml.Quoting
import Callout.Toml.Reader

namespace Callout.Toml

open Text Text.Parser

/-- The scalars that the printer writes itself: integers may not be negative or too large. -/
def Scalar.Writable : Scalar → Prop
  | .string _ | .boolean _ => True
  | .integer n => 0 ≤ n ∧ n ≤ maxInteger
  | .float _ | .datetime _ => False

variable {cs rest : List Char}

theorem endsNumber_newline (rest : List Char) : EndsNumber ('\n' :: rest) := by
  intro c first
  obtain rfl : '\n' = c := Option.some.inj first
  exact ⟨rfl, by decide⟩

theorem stringText_of_head? (basic : '"' ∉ cs.head?) (literal' : '\'' ∉ cs.head?) :
    stringText cs = none := by
  have noLines : literalLines cs = none := linesString_of_head? literal'
  have noLiteral : literalString cs = none :=
    bind_of_none (literal_of_head? (c := '\'') rfl literal')
  unfold stringText
  rw [firstOf_cons_of_none (basicLines_of_head? basic),
    firstOf_cons_of_none (basicString_of_head? basic), firstOf_cons_of_none noLines,
    firstOf_cons_of_none noLiteral]
  rfl

theorem toList_text_string (s : String) :
    (Scalar.string s).text.toList = (quotingOf s.toList).write s.toList :=
  String.toList_ofList

theorem scalar_string (s : String) (rest : List Char) :
    scalar ((Scalar.string s).text.toList ++ '\n' :: rest) = some (.string s, '\n' :: rest) := by
  have read : stringText ((quotingOf s.toList).write s.toList ++ '\n' :: rest) =
      some (.ofList s.toList, '\n' :: rest) := stringText_append (by simp) (by simp)
  rw [String.ofList_toList] at read
  rw [toList_text_string]
  exact firstOf_cons_of_some (bind_of_some read)

theorem toList_text_integer (n : Nat) : (Scalar.integer n).text.toList = Nat.toDigits 10 n := by
  show (toString n).toList = _
  rw [Nat.toString_eq_repr, Nat.toList_repr]

theorem scalar_integer {n : Nat} (most : n ≤ maxInteger) (rest : List Char) :
    scalar ((Scalar.integer n).text.toList ++ '\n' :: rest) =
      some (.integer n, '\n' :: rest) := by
  have ends := endsNumber_newline rest
  have digits := isDigit_toDigits n
  have unquoted {quote : Char} (noDigit : isDigit quote = false) :
      quote ∉ (Nat.toDigits 10 n ++ '\n' :: rest).head? := by
    rw [List.head?_append_of_ne_nil _ Nat.toDigits_ne_nil]
    intro first
    have digit := digits quote (List.mem_of_mem_head? first)
    rw [noDigit] at digit
    cases digit
  rw [toList_text_integer]
  unfold scalar
  rw [firstOf_cons_of_none (bind_of_none (stringText_of_head? (unquoted rfl) (unquoted rfl))),
    firstOf_cons_of_none (bind_of_none (datetime_append ends digits)),
    firstOf_cons_of_none (bind_of_none
      (float_append ends digits (.inr (wholeDigits_append ends n))))]
  exact firstOf_cons_of_some (bind_of_some (integer_append ends most))

theorem scalar_of_ends (ends : EndsNumber cs) (basic : '"' ∉ cs.head?)
    (literal' : '\'' ∉ cs.head?) : scalar cs = firstOf
      [do literal "true"; return .boolean true, do literal "false"; return .boolean false] cs := by
  have digits : ∀ d ∈ ([] : List Char), isDigit d = true := nofun
  have noDate : datetime cs = none := datetime_append ends digits
  have noFloat : float cs = none :=
    float_append ends digits (.inl (wholeDigits_of_head? ends.stop))
  unfold scalar
  rw [firstOf_cons_of_none (bind_of_none (stringText_of_head? basic literal')),
    firstOf_cons_of_none (bind_of_none noDate), firstOf_cons_of_none (bind_of_none noFloat),
    firstOf_cons_of_none (bind_of_none (integer_of_ends ends))]

theorem scalar_boolean (b : Bool) (rest : List Char) :
    scalar ((Scalar.boolean b).text.toList ++ '\n' :: rest) = some (.boolean b, '\n' :: rest) := by
  have ends {c : Char} (other : isDigit c = false ∧ c ∉ numberMarks) (cs : List Char) :
      EndsNumber (c :: cs) := by
    intro d first
    obtain rfl : c = d := Option.some.inj first
    exact other
  cases b with
  | true =>
    have text : (Scalar.boolean true).text.toList = ['t', 'r', 'u', 'e'] := rfl
    have read : literal "true" (['t', 'r', 'u', 'e'] ++ '\n' :: rest) = some ((), '\n' :: rest) :=
      literal_append "true" _
    rw [text, List.cons_append, scalar_of_ends (ends (by decide) _) (by simp) (by simp)]
    exact firstOf_cons_of_some (bind_of_some read)
  | false =>
    have text : (Scalar.boolean false).text.toList = ['f', 'a', 'l', 's', 'e'] := rfl
    have read : literal "false" (['f', 'a', 'l', 's', 'e'] ++ '\n' :: rest) =
        some ((), '\n' :: rest) := literal_append "false" _
    have other : literal "true" (['f', 'a', 'l', 's', 'e'] ++ '\n' :: rest) = none :=
      literal_of_head? (c := 't') rfl (by simp)
    rw [text, List.cons_append, scalar_of_ends (ends (by decide) _) (by simp) (by simp)]
    exact (firstOf_cons_of_none (bind_of_none other)).trans
      (firstOf_cons_of_some (bind_of_some read))

theorem scalar_append {v : Scalar} (writable : v.Writable) (rest : List Char) :
    scalar (v.text.toList ++ '\n' :: rest) = some (v, '\n' :: rest) := by
  cases v with
  | string s => exact scalar_string s rest
  | boolean b => exact scalar_boolean b rest
  | integer n =>
    obtain ⟨least, most⟩ := writable
    obtain ⟨m, rfl⟩ := Int.eq_ofNat_of_zero_le least
    exact scalar_integer (Int.ofNat_le.mp most) rest
  | float _ | datetime _ => cases writable

end Callout.Toml
