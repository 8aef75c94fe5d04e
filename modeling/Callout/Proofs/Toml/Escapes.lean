import Callout.Proofs.Text.Parser
import Callout.Toml.Printer
import Callout.Toml.Text

namespace Callout.Toml

open Text Text.Parser

variable {c quote : Char} {cs rest : List Char} {multiline : Bool}

theorem escape_letter {letter : Char} (stands : unescape? letter = some c) (rest : List Char) :
    escape ('\\' :: letter :: rest) = some (c, rest) := by
  have backslash : literal "\\" ('\\' :: letter :: rest) = some ((), letter :: rest) :=
    literal_append "\\" _
  unfold escape
  rw [bind_of_some backslash, bind_of_some (char_cons rfl _)]
  simp only [stands]
  rfl

theorem hexValue?_digitChar : ∀ d < 16, hexValue? d.digitChar.toUpper = some d := by
  decide

theorem hexDigits_of_lt {n : Nat} (small : n < 0x100) :
    hexDigits n = ['0', '0', (n / 16).digitChar.toUpper, (n % 16).digitChar.toUpper] := by
  unfold hexDigits
  by_cases short : n < 16
  · rw [Nat.toDigits_of_lt_base short, Nat.div_eq_of_lt short, Nat.mod_eq_of_lt short]
    rfl
  · rw [Nat.toDigits_of_base_le (by decide) (Nat.le_of_not_lt short),
      Nat.toDigits_of_lt_base (by omega)]
    rfl

theorem hexDigits_exact {n : Nat} (small : n < 0x100) : (hexDigits n).length = 4 ∧
    (∀ d ∈ hexDigits n, isHexDigit d = true) ∧ ofDigits 16 (hexDigits n) = n := by
  have zero : hexValue? '0' = some 0 := rfl
  have high := hexValue?_digitChar (n / 16) (by omega)
  have low := hexValue?_digitChar (n % 16) (by omega)
  rw [hexDigits_of_lt small]
  refine ⟨rfl, ?_, ?_⟩
  · simp only [List.forall_mem_cons, isHexDigit, zero, high, low, Option.isSome_some]
    exact ⟨trivial, trivial, trivial, trivial, nofun⟩
  · simp only [ofDigits, List.foldl_cons, List.foldl_nil, zero, high, low, Option.getD_some]
    omega

theorem escape_code (small : c.toNat < 0x100) (rest : List Char) :
    escape ('\\' :: 'u' :: (hexDigits c.toNat ++ rest)) = some (c, rest) := by
  obtain ⟨four, hex, value⟩ := hexDigits_exact small
  have backslash : literal "\\" ('\\' :: 'u' :: (hexDigits c.toNat ++ rest)) =
      some ((), 'u' :: (hexDigits c.toNat ++ rest)) := literal_append "\\" _
  have digits : upTo (char isHexDigit) 4 (hexDigits c.toNat ++ rest) =
      some (hexDigits c.toNat, rest) := by
    rw [upTo_char hex (by omega), List.take_of_length_le (by omega),
      List.drop_of_length_le (by omega), List.nil_append]
  unfold escape
  rw [bind_of_some backslash, bind_of_some (char_cons rfl _)]
  show codePoint 4 (hexDigits c.toNat ++ rest) = some (c, rest)
  unfold codePoint
  rw [bind_of_some digits, value, if_pos ⟨four, c.valid⟩, Char.ofNat_toNat]
  rfl

theorem small_of_isUnwritable (unwritable : isUnwritable c = true) : c.toNat < 0x100 := by
  simp only [isUnwritable, Bool.or_eq_true, Bool.and_eq_true, decide_eq_true_eq] at unwritable
  omega

theorem escape_escapeOf? {e : List Char} (written : escapeOf? multiline c = some e)
    (rest : List Char) : escape (e ++ rest) = some (c, rest) := by
  unfold escapeOf? at written
  split_ifs at written with backspace tab line _ feed return' backslash unwritable
  · obtain rfl := Option.some.inj written
    subst backspace
    exact escape_letter rfl rest
  · obtain rfl := Option.some.inj written
    subst tab
    exact escape_letter rfl rest
  · obtain rfl := Option.some.inj written
    subst line
    exact escape_letter rfl rest
  · obtain rfl := Option.some.inj written
    subst feed
    exact escape_letter rfl rest
  · obtain rfl := Option.some.inj written
    subst return'
    exact escape_letter rfl rest
  · obtain rfl := Option.some.inj written
    subst backslash
    exact escape_letter rfl rest
  · obtain rfl := Option.some.inj written
    exact escape_code (small_of_isUnwritable unwritable) rest

theorem escapeOf?_eq_some {e : List Char} (written : escapeOf? multiline c = some e) :
    ∃ letter others, e = '\\' :: letter :: others ∧ isBlank letter = false ∧ letter ≠ '\n' ∧
      letter ≠ '\r' := by
  unfold escapeOf? at written
  split_ifs at written
  all_goals
    obtain rfl := Option.some.inj written
    exact ⟨_, _, rfl, rfl, by decide, by decide⟩

theorem isPlain_of_writable (writable : isUnwritable c = false) (inline : c ≠ '\n') :
    isPlain c = true := by
  simp only [isUnwritable, Bool.or_eq_false_iff, Bool.and_eq_false_iff, decide_eq_false_iff_not,
    ne_eq, not_not, inline, or_false] at writable
  simp only [isPlain, Bool.or_eq_true, beq_iff_eq, Bool.and_eq_true, decide_eq_true_eq, ne_eq]
  obtain ⟨high | tab, other⟩ := writable
  · exact .inr ⟨by omega, other⟩
  · exact .inl tab

theorem isBasicPlain_of_escapeOf? (plain : escapeOf? multiline c = none) (other : c ≠ '"')
    (inline : multiline = true → c ≠ '\n') : isBasicPlain c = true := by
  unfold escapeOf? at plain
  split_ifs at plain with _ _ line several _ _ backslash unwritable
  · exact absurd line (inline several)
  · have writable : isUnwritable c = false := Bool.eq_false_iff.mpr unwritable
    have still : isPlain c = true := isPlain_of_writable writable line
    simp [isBasicPlain, still, other, backslash]

def basicChar (c : Char) : List Char :=
  if c = '"' then ['\\', '"'] else (escapeOf? false c).getD [c]

theorem basicChar_ne_nil (c : Char) : basicChar c ≠ [] := by
  unfold basicChar
  split_ifs
  · simp
  · cases escape : escapeOf? false c with
    | none => simp
    | some e =>
      obtain ⟨letter, others, rfl, _⟩ := escapeOf?_eq_some escape
      simp

theorem head?_basicChar (c : Char) : '"' ∉ (basicChar c).head? := by
  unfold basicChar
  split_ifs with quotes
  · simp
  · cases escape : escapeOf? false c with
    | none => simpa using quotes
    | some e =>
      obtain ⟨letter, others, rfl, _⟩ := escapeOf?_eq_some escape
      simp

theorem escaped_false (run : Nat) (cs : List Char) :
    escaped false run cs = cs.flatMap basicChar := by
  induction cs generalizing run with
  | nil => rfl
  | cons c cs ih =>
    rw [escaped, List.flatMap_cons, basicChar]
    by_cases quotes : c = '"'
    · simp [quotes, ih]
    · cases escape : escapeOf? false c <;> simp [quotes, ih]

theorem readBasic_append (c : Char) (rest : List Char) :
    orElse (char isBasicPlain) escape (basicChar c ++ rest) = some (c, rest) := by
  have refused (cs : List Char) : char isBasicPlain ('\\' :: cs) = none :=
    char_of_head? (by simp [isBasicPlain])
  unfold basicChar
  split_ifs with quotes
  · rw [List.cons_append, orElse_of_none (refused _)]
    subst quotes
    exact escape_letter rfl rest
  · cases escape : escapeOf? false c with
    | none =>
      have plain := isBasicPlain_of_escapeOf? escape quotes nofun
      exact orElse_of_some (char_cons plain rest)
    | some e =>
      obtain ⟨letter, others, rfl, _⟩ := escapeOf?_eq_some escape
      rw [Option.getD_some, List.cons_append, orElse_of_none (refused _)]
      exact escape_escapeOf? escape rest

theorem basicString_append (cs rest : List Char) :
    basicString ('"' :: (escaped false 0 cs ++ '"' :: rest)) = some (.ofList cs, rest) := by
  have opening : literal "\"" ('"' :: (escaped false 0 cs ++ '"' :: rest)) =
      some ((), escaped false 0 cs ++ '"' :: rest) := literal_append "\"" _
  have closing : literal "\"" ('"' :: rest) = some ((), rest) := literal_append "\"" _
  have stops : orElse (char isBasicPlain) escape ('"' :: rest) = none := by
    rw [orElse_of_none (char_of_head? (by simp [isBasicPlain]))]
    exact bind_of_none (literal_of_head? (c := '\\') rfl (by simp))
  have filled : ∀ c ∈ cs, basicChar c ≠ [] := fun c _ => basicChar_ne_nil c
  unfold basicString
  rw [bind_of_some opening, escaped_false,
    bind_of_some (many_append (fun c _ => readBasic_append c) filled stops), bind_of_some closing]
  rfl

theorem literalString_append (plain : ∀ c ∈ cs, isLiteralPlain c = true) (rest : List Char) :
    literalString ('\'' :: (cs ++ '\'' :: rest)) = some (.ofList cs, rest) := by
  have opening : literal "'" ('\'' :: (cs ++ '\'' :: rest)) = some ((), cs ++ '\'' :: rest) :=
    literal_append "'" _
  have closing : literal "'" ('\'' :: rest) = some ((), rest) := literal_append "'" _
  unfold literalString
  rw [bind_of_some opening, bind_of_some (charsWhile_append plain (by simp [isLiteralPlain])),
    bind_of_some closing]
  rfl

end Callout.Toml
