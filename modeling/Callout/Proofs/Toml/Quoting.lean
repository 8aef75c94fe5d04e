import Callout.Proofs.Toml.Lines
import Mathlib.Data.List.Basic

namespace Callout.Toml

open Text Text.Parser

variable {quote : Char} {cs rest : List Char}

theorem longestRun_pos (run : Nat) (member : quote ∈ cs) : 0 < longestRun quote run cs := by
  have grows (run : Nat) (cs : List Char) : run ≤ longestRun quote run cs := by
    induction cs generalizing run with
    | nil => exact Nat.le_refl run
    | cons c cs ih =>
      have step := ih (run + 1)
      rw [longestRun]
      split_ifs <;> omega
  induction cs generalizing run with
  | nil => cases member
  | cons c cs ih =>
    rw [longestRun]
    split_ifs with here
    · have more := grows (run + 1) cs
      omega
    · have later : quote ∈ cs := (List.mem_cons.mp member).resolve_left (Ne.symm here)
      have positive := ih 0 later
      omega

theorem quotingOf_cases (cs : List Char) :
    (∃ multiline, quotingOf cs = ⟨true, multiline⟩) ∨
    (quotingOf cs = ⟨false, false⟩ ∧ cs ≠ [] ∧ ∀ c ∈ cs, isLiteralPlain c = true) ∨
    (quotingOf cs = ⟨false, true⟩ ∧ longestRun '\'' 0 cs ≤ 2 ∧
      ∀ c ∈ cs, isUnwritable c = false) := by
  unfold quotingOf
  simp only
  split_ifs with unwritable plain inline quotes apostrophes
  · exact .inl ⟨_, rfl⟩
  · exact .inl ⟨_, rfl⟩
  · have writable : ∀ c ∈ cs, isUnwritable c = false := by simpa using unwritable
    simp only [Bool.and_eq_true, decide_eq_true_eq, Bool.not_eq_true', List.contains_eq_mem,
      decide_eq_false_iff_not] at inline
    refine .inr (.inl ⟨rfl, ?_, ?_⟩)
    · rintro rfl
      exact plain rfl
    · intro c member
      have here : c ≠ '\n' := fun line => inline.2 (line ▸ member)
      have other : c ≠ '\'' := by
        rintro rfl
        have positive := longestRun_pos 0 member
        omega
      simp [isLiteralPlain, isPlain_of_writable (writable c member) here, other]
  · exact .inl ⟨_, rfl⟩
  · exact .inr (.inr ⟨rfl, apostrophes, by simpa using unwritable⟩)
  · exact .inl ⟨_, rfl⟩

theorem exactly_of_fewer {k n : Nat} (fewer : k < n) (other : quote ∉ rest.head?) :
    exactly (List.replicate n quote) (List.replicate k quote ++ rest) = none := by
  induction k generalizing n with
  | zero =>
    obtain ⟨n, rfl⟩ := Nat.exists_eq_add_of_lt fewer
    cases rest with
    | nil => rfl
    | cons d rest =>
      have apart : d ≠ quote := by simpa using other
      exact if_neg apart
  | succ k ih =>
    obtain ⟨n, rfl⟩ := Nat.exists_eq_add_of_lt fewer
    exact (if_pos rfl).trans (ih (by omega))

def lineStart (cs : List Char) : List Char :=
  if cs.contains '\n' then ['\n'] else []

theorem lineStart_cases {text : List Char}
    (first : '\n' ∉ cs → ∀ c ∈ text.head?, c ≠ '\n' ∧ c ≠ '\r') :
    lineStart cs = ['\n'] ∨ lineStart cs = [] ∧ ∀ c ∈ text.head?, c ≠ '\n' ∧ c ≠ '\r' := by
  unfold lineStart
  by_cases several : '\n' ∈ cs
  · exact .inl (by simp [several])
  · exact .inr ⟨by simp [several], first several⟩

theorem head?_escaped (inline : '\n' ∉ cs) :
    ∀ d ∈ (escaped true 0 cs).head?, d ≠ '\n' ∧ d ≠ '\r' := by
  cases cs with
  | nil => nofun
  | cons c cs =>
    by_cases quotes : c = '"'
    · simp [escaped, quotes]
    · cases escape : escapeOf? true c with
      | some e =>
        obtain ⟨letter, others, rfl, _⟩ := escapeOf?_eq_some escape
        simp [escaped, quotes, escape]
      | none =>
        have feed : c ≠ '\n' := fun line => inline (line ▸ List.mem_cons_self)
        have return' : c ≠ '\r' := by
          rintro rfl
          cases escape
        simpa [escaped, quotes, escape] using ⟨feed, return'⟩

theorem basicLines_append (last : '"' ∉ rest.head?) :
    basicLines (Quoting.write ⟨true, true⟩ cs ++ rest) = some (.ofList cs, rest) := by
  have text : Quoting.write ⟨true, true⟩ cs ++ rest = List.replicate 3 '"' ++
      (lineStart cs ++ (escaped true 0 cs ++ (List.replicate 3 '"' ++ rest))) := by
    simp [Quoting.write, lineStart]
  rw [text]
  exact linesString_append (fun _ => basicPiece_of_head? (by simp [isBasicPlain])) (by decide)
    (escaped_spelled (Nat.zero_le 2)) (lineStart_cases head?_escaped) last

theorem literalLines_append (few : longestRun '\'' 0 cs ≤ 2)
    (writable : ∀ c ∈ cs, isUnwritable c = false) (last : '\'' ∉ rest.head?) :
    literalLines (Quoting.write ⟨false, true⟩ cs ++ rest) = some (.ofList cs, rest) := by
  have text : Quoting.write ⟨false, true⟩ cs ++ rest = List.replicate 3 '\'' ++
      (lineStart cs ++ (cs ++ (List.replicate 3 '\'' ++ rest))) := by
    simp [Quoting.write, lineStart]
  have first (inline : '\n' ∉ cs) : ∀ d ∈ cs.head?, d ≠ '\n' ∧ d ≠ '\r' := by
    intro d head
    have member := List.mem_of_mem_head? head
    refine ⟨fun line => inline (line ▸ member), ?_⟩
    rintro rfl
    cases writable _ member
  rw [text]
  exact linesString_append (fun _ => bind_of_none (char_of_head? (by simp [isLiteralPlain])))
    (by decide) (literal_spelled few writable) (lineStart_cases first) last

theorem linesString_of_fewer {piece : Parser (List Char)} {k : Nat} (fewer : k < 3)
    (other : quote ∉ rest.head?) :
    linesString quote piece (List.replicate k quote ++ rest) = none :=
  bind_of_none (exactly_of_fewer fewer other)

theorem linesString_of_head? {piece : Parser (List Char)} (other : quote ∉ cs.head?) :
    linesString quote piece cs = none :=
  linesString_of_fewer (Nat.zero_lt_succ 2) other

theorem basicLines_of_head? (other : '"' ∉ cs.head?) : basicLines cs = none :=
  linesString_of_head? other

theorem basicString_of_head? (other : '"' ∉ cs.head?) : basicString cs = none :=
  bind_of_none (literal_of_head? (c := '"') rfl other)

theorem basicLines_of_inline (cs : List Char) (last : '"' ∉ rest.head?) :
    basicLines ('"' :: (escaped false 0 cs ++ '"' :: rest)) = none := by
  cases cs with
  | nil => exact linesString_of_fewer (k := 2) (by decide) last
  | cons c cs =>
    have other : '"' ∉ (escaped false 0 (c :: cs) ++ '"' :: rest).head? := by
      rw [escaped_false, List.flatMap_cons, List.append_assoc,
        List.head?_append_of_ne_nil _ (basicChar_ne_nil c)]
      exact head?_basicChar c
    exact linesString_of_fewer (k := 1) (by decide) other

theorem literalLines_of_inline (filled : cs ≠ []) (plain : ∀ c ∈ cs, isLiteralPlain c = true)
    (rest : List Char) : literalLines ('\'' :: (cs ++ '\'' :: rest)) = none := by
  apply linesString_of_fewer (k := 1) (by decide)
  obtain ⟨c, others, rfl⟩ := List.exists_cons_of_ne_nil filled
  rintro quotes
  obtain rfl : c = '\'' := Option.some.inj quotes
  cases plain _ List.mem_cons_self

/-- Whatever a string holds, it is read back from the quotes that are chosen for it. -/
theorem stringText_append (basic : '"' ∉ rest.head?) (literal' : '\'' ∉ rest.head?) :
    stringText ((quotingOf cs).write cs ++ rest) = some (.ofList cs, rest) := by
  unfold stringText
  rcases quotingOf_cases cs with ⟨multiline, quoting⟩ | ⟨quoting, filled, plain⟩ |
    ⟨quoting, few, writable⟩
  · rw [quoting]
    cases multiline with
    | true => exact firstOf_cons_of_some (basicLines_append basic)
    | false =>
      have text : Quoting.write ⟨true, false⟩ cs ++ rest =
          '"' :: (escaped false 0 cs ++ '"' :: rest) := by
        simp [Quoting.write]
      rw [text, firstOf_cons_of_none (basicLines_of_inline cs basic)]
      exact firstOf_cons_of_some (basicString_append cs rest)
  · have text : Quoting.write ⟨false, false⟩ cs ++ rest = '\'' :: (cs ++ '\'' :: rest) := by
      simp [Quoting.write]
    rw [quoting, text, firstOf_cons_of_none (basicLines_of_head? (by simp)),
      firstOf_cons_of_none (basicString_of_head? (by simp)),
      firstOf_cons_of_none (literalLines_of_inline filled plain rest)]
    exact firstOf_cons_of_some (literalString_append plain rest)
  · have first : (Quoting.write ⟨false, true⟩ cs ++ rest).head? = some '\'' := by
      simp [Quoting.write, List.replicate]
    rw [quoting, firstOf_cons_of_none (basicLines_of_head? (by simp [first])),
      firstOf_cons_of_none (basicString_of_head? (by simp [first]))]
    exact firstOf_cons_of_some (literalLines_append few writable literal')

end Callout.Toml
