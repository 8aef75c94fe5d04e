import Callout.Proofs.Toml.Escapes

namespace Callout.Toml

open Text Text.Parser

variable {c quote : Char} {cs rest : List Char}

def linesPiece (quote : Char) (piece : Parser (List Char)) : Parser (List Char) :=
  firstOf [piece, do newline; return ['\n'], innerQuotes quote]

/-- The text of characters between three quotes, after `run` quotes in a row: quotes stand for
themselves as long as there are not three of them, and other characters are read one by one. -/
inductive Spelled (quote : Char) (p : Parser (List Char)) : Nat → List Char → List Char → Prop
  | nil {run : Nat} (few : run ≤ 2) : Spelled quote p run [] []
  | quote {run : Nat} {cs text : List Char} (more : Spelled quote p (run + 1) cs text) :
    Spelled quote p run (quote :: cs) (quote :: text)
  | other {run : Nat} {c d : Char} {e cs text : List Char} (few : run ≤ 2) (apart : d ≠ quote)
    (reads : ∀ rest, p (d :: (e ++ rest)) = some ([c], rest)) (more : Spelled quote p 0 cs text) :
    Spelled quote p run (c :: cs) (d :: (e ++ text))

theorem newline_of_head? (other : ∀ c ∈ cs.head?, c ≠ '\n' ∧ c ≠ '\r') : newline cs = none := by
  have feed : literal "\n" cs = none :=
    literal_of_head? (c := '\n') rfl fun first => (other _ first).1 rfl
  unfold newline
  rw [orElse_of_none feed]
  exact literal_of_head? (c := '\r') rfl fun first => (other _ first).2 rfl

theorem innerQuotes_append {run : Nat} {d : Char} (several : 1 ≤ run) (few : run ≤ 2)
    (apart : d ≠ quote) (rest : List Char) :
    innerQuotes quote (List.replicate run quote ++ d :: rest) =
      some (List.replicate run quote, d :: rest) := by
  obtain rfl | rfl : run = 1 ∨ run = 2 := by omega
  all_goals
    simp [innerQuotes, firstOf, orElse, exactly, apart, ahead, char, bind, andThen, Pure.pure,
      return']

theorem innerQuotes_of_three (quote : Char) (rest : List Char) :
    innerQuotes quote (quote :: quote :: quote :: rest) = none := by
  simp [innerQuotes, firstOf, orElse, exactly, ahead, char, bind, andThen, fail]

theorem closingQuotes_append {k : Nat} (few : k ≤ 2) (last : quote ∉ rest.head?) :
    closingQuotes quote (List.replicate (k + 3) quote ++ rest) =
      some (List.replicate k quote, rest) := by
  obtain rfl | rfl | rfl : k = 0 ∨ k = 1 ∨ k = 2 := by omega
  all_goals
    cases rest with
    | nil =>
      simp [closingQuotes, firstOf, orElse, List.replicate, exactly, bind, andThen, Pure.pure,
        return']
    | cons d rest =>
      have apart : d ≠ quote := by simpa using last
      simp [closingQuotes, firstOf, orElse, List.replicate, exactly, apart, bind, andThen,
        Pure.pure, return']

theorem linesPiece_of_three {piece : Parser (List Char)}
    (refuses : ∀ rest, piece (quote :: rest) = none)
    (inline : quote ≠ '\n' ∧ quote ≠ '\r') (rest : List Char) :
    linesPiece quote piece (quote :: quote :: quote :: rest) = none := by
  have noNewline : newline (quote :: quote :: quote :: rest) = none :=
    newline_of_head? (by simpa using inline)
  unfold linesPiece
  rw [firstOf_cons_of_none (refuses _), firstOf_cons_of_none (bind_of_none noNewline),
    firstOf_cons_of_none (innerQuotes_of_three quote rest)]
  rfl

theorem linesPiece_quotes {piece : Parser (List Char)} {run : Nat} {d : Char}
    (refuses : ∀ rest, piece (quote :: rest) = none)
    (inline : quote ≠ '\n' ∧ quote ≠ '\r') (several : 1 ≤ run) (few : run ≤ 2) (apart : d ≠ quote)
    (rest : List Char) : linesPiece quote piece (List.replicate run quote ++ d :: rest) =
      some (List.replicate run quote, d :: rest) := by
  have first : List.replicate run quote ++ d :: rest =
      quote :: (List.replicate (run - 1) quote ++ d :: rest) := by
    obtain rfl | rfl : run = 1 ∨ run = 2 := by omega
    all_goals rfl
  have noPiece : piece (List.replicate run quote ++ d :: rest) = none := by
    rw [first, refuses]
  have noNewline : newline (List.replicate run quote ++ d :: rest) = none := by
    rw [first]
    exact newline_of_head? (by simpa using inline)
  unfold linesPiece
  rw [firstOf_cons_of_none noPiece, firstOf_cons_of_none (bind_of_none noNewline)]
  exact firstOf_cons_of_some (innerQuotes_append several few apart rest)

/-- A text between three quotes is read piece by piece, but for the quotes that it ends with. -/
theorem Spelled.repeats {piece : Parser (List Char)} {run : Nat} {text : List Char}
    (refuses : ∀ rest, piece (quote :: rest) = none)
    (inline : quote ≠ '\n' ∧ quote ≠ '\r')
    (h : Spelled quote (linesPiece quote piece) run cs text) (rest : List Char) :
    ∃ pieces k, k ≤ 2 ∧ pieces.flatten ++ List.replicate k quote = List.replicate run quote ++ cs ∧
      Repeats (linesPiece quote piece)
        (List.replicate run quote ++ (text ++ (List.replicate 3 quote ++ rest))) pieces
        (List.replicate (k + 3) quote ++ rest) := by
  induction h with
  | @nil run few =>
    refine ⟨[], run, few, by simp, ?_⟩
    have joined : List.replicate run quote ++ ([] ++ (List.replicate 3 quote ++ rest)) =
        List.replicate (run + 3) quote ++ rest := by
      rw [List.nil_append, ← List.append_assoc, List.replicate_append_replicate]
    rw [joined]
    apply Repeats.stop
    exact linesPiece_of_three refuses inline (List.replicate run quote ++ rest)
  | @quote run cs text more ih =>
    obtain ⟨pieces, k, few, whole, repeats⟩ := ih
    refine ⟨pieces, k, few, ?_, ?_⟩
    · rw [whole, List.replicate_succ', List.append_assoc, List.singleton_append]
    · rw [List.replicate_succ', List.append_assoc, List.singleton_append] at repeats
      exact repeats
  | @other run c d e cs text few apart reads more ih =>
    obtain ⟨pieces, k, few', whole, repeats⟩ := ih
    have front : d :: (e ++ text) ++ (List.replicate 3 quote ++ rest) =
        d :: (e ++ (text ++ (List.replicate 3 quote ++ rest))) := by simp
    rw [front]
    have read : Repeats (linesPiece quote piece)
        (d :: (e ++ (text ++ (List.replicate 3 quote ++ rest)))) ([c] :: pieces)
        (List.replicate (k + 3) quote ++ rest) := by
      refine .step (reads _) ?_ repeats
      simp only [List.length_cons, List.length_append]
      omega
    cases run with
    | zero => exact ⟨[c] :: pieces, k, few', by simpa using whole, read⟩
    | succ run =>
      refine ⟨List.replicate (run + 1) quote :: [c] :: pieces, k, few', by simpa using whole, ?_⟩
      refine .step (linesPiece_quotes refuses inline (Nat.succ_pos run) few apart _) ?_ read
      rw [List.length_append, List.length_replicate]
      omega

theorem linesString_append {piece : Parser (List Char)} {start text : List Char}
    (refuses : ∀ rest, piece (quote :: rest) = none) (inline : quote ≠ '\n' ∧ quote ≠ '\r')
    (spelled : Spelled quote (linesPiece quote piece) 0 cs text)
    (opens : start = ['\n'] ∨ start = [] ∧ ∀ c ∈ text.head?, c ≠ '\n' ∧ c ≠ '\r')
    (last : quote ∉ rest.head?) :
    linesString quote piece (List.replicate 3 quote ++
      (start ++ (text ++ (List.replicate 3 quote ++ rest)))) = some (.ofList cs, rest) := by
  have opening : optionally newline (start ++ (text ++ (List.replicate 3 quote ++ rest))) =
      some ((), text ++ (List.replicate 3 quote ++ rest)) := by
    rcases opens with rfl | ⟨rfl, apart⟩
    · exact optionally_of_some (orElse_of_some (literal_append "\n" _))
    · apply optionally_of_none
      apply newline_of_head?
      cases text with
      | nil => simpa using inline
      | cons c text => exact apart
  obtain ⟨pieces, k, few, whole, repeats⟩ := spelled.repeats refuses inline rest
  unfold linesString
  rw [bind_of_some (exactly_append _ _), bind_of_some opening]
  refine (bind_of_some repeats.many_eq).trans ?_
  rw [bind_of_some (closingQuotes_append few last), whole]
  rfl

def basicPiece : Parser (List Char) :=
  firstOf [do return [← char isBasicPlain], continuation, do return [← escape]]

theorem continuation_of_letter {letter : Char} (visible : isBlank letter = false)
    (inline : letter ≠ '\n' ∧ letter ≠ '\r') (rest : List Char) :
    continuation ('\\' :: letter :: rest) = none := by
  have backslash : literal "\\" ('\\' :: letter :: rest) = some ((), letter :: rest) :=
    literal_append "\\" _
  have noBlank : blanks (letter :: rest) = some ((), letter :: rest) :=
    bind_of_some (charsWhile_of_head? (by simpa using visible))
  unfold continuation
  rw [bind_of_some backslash, bind_of_some noBlank]
  exact bind_of_none (newline_of_head? (by simpa using inline))

theorem basicPiece_of_backslash {letter : Char} (visible : isBlank letter = false)
    (inline : letter ≠ '\n' ∧ letter ≠ '\r')
    (reads : escape ('\\' :: letter :: cs) = some (c, rest)) :
    basicPiece ('\\' :: letter :: cs) = some ([c], rest) := by
  have refused : char isBasicPlain ('\\' :: letter :: cs) = none :=
    char_of_head? (by simp [isBasicPlain])
  unfold basicPiece
  rw [firstOf_cons_of_none (bind_of_none refused),
    firstOf_cons_of_none (continuation_of_letter visible inline cs)]
  exact firstOf_cons_of_some (bind_of_some reads)

theorem basicPiece_of_head? (other : ∀ c ∈ cs.head?, isBasicPlain c = false ∧ c ≠ '\\') :
    basicPiece cs = none := by
  have refused : char isBasicPlain cs = none := char_of_head? fun c first => (other c first).1
  have noBackslash : literal "\\" cs = none :=
    literal_of_head? (c := '\\') rfl fun first => (other _ first).2 rfl
  have noContinuation : continuation cs = none := bind_of_none noBackslash
  have noEscape : escape cs = none := bind_of_none noBackslash
  unfold basicPiece
  rw [firstOf_cons_of_none (bind_of_none refused), firstOf_cons_of_none noContinuation,
    firstOf_cons_of_none (bind_of_none noEscape)]
  rfl

theorem linesPiece_newline {piece : Parser (List Char)} (refuses : piece ('\n' :: rest) = none) :
    linesPiece quote piece ('\n' :: rest) = some (['\n'], rest) := by
  have read : newline ('\n' :: rest) = some ((), rest) := orElse_of_some (literal_append "\n" rest)
  unfold linesPiece
  rw [firstOf_cons_of_none refuses]
  exact firstOf_cons_of_some (bind_of_some read)

theorem escaped_spelled {run : Nat} (few : run ≤ 2) :
    Spelled '"' (linesPiece '"' basicPiece) run cs (escaped true run cs) := by
  induction cs generalizing run with
  | nil => exact .nil few
  | cons c cs ih =>
    by_cases quotes : c = '"'
    · subst quotes
      by_cases more : run < 2
      · have text : escaped true run ('"' :: cs) = '"' :: escaped true (run + 1) cs := by
          simp [escaped, more]
        rw [text]
        exact .quote (ih more)
      · have text : escaped true run ('"' :: cs) = '\\' :: (['"'] ++ escaped true 0 cs) := by
          simp [escaped, more]
        rw [text]
        refine .other few (by decide) ?_ (ih (Nat.zero_le 2))
        intro rest
        exact firstOf_cons_of_some
          (basicPiece_of_backslash rfl (by decide) (escape_letter rfl rest))
    · cases escape : escapeOf? true c with
      | some e =>
        obtain ⟨letter, others, rfl, visible, inline⟩ := escapeOf?_eq_some escape
        have text : escaped true run (c :: cs) =
            '\\' :: (letter :: others ++ escaped true 0 cs) := by
          simp [escaped, quotes, escape]
        rw [text]
        refine .other few (by decide) ?_ (ih (Nat.zero_le 2))
        intro rest
        exact firstOf_cons_of_some
          (basicPiece_of_backslash visible inline (escape_escapeOf? escape rest))
      | none =>
        have text : escaped true run (c :: cs) = c :: ([] ++ escaped true 0 cs) := by
          simp [escaped, quotes, escape]
        rw [text]
        refine .other few quotes ?_ (ih (Nat.zero_le 2))
        intro rest
        by_cases line : c = '\n'
        · subst line
          exact linesPiece_newline (basicPiece_of_head? (by simp [isBasicPlain, isPlain]))
        · have plain := isBasicPlain_of_escapeOf? escape quotes fun _ => line
          exact firstOf_cons_of_some (firstOf_cons_of_some (bind_of_some (char_cons plain rest)))

def literalPiece : Parser (List Char) := do
  return [← char isLiteralPlain]

theorem literal_spelled {run : Nat} (few : longestRun '\'' run cs ≤ 2)
    (writable : ∀ c ∈ cs, isUnwritable c = false) :
    Spelled '\'' (linesPiece '\'' literalPiece) run cs cs := by
  induction cs generalizing run with
  | nil => exact .nil few
  | cons c cs ih =>
    obtain ⟨first, others⟩ := List.forall_mem_cons.mp writable
    rw [longestRun] at few
    split_ifs at few with quotes
    · subst quotes
      exact .quote (ih few others)
    · refine .other (e := []) (by omega) quotes ?_ (ih (by omega) others)
      intro rest
      by_cases line : c = '\n'
      · subst line
        exact linesPiece_newline (bind_of_none (char_of_head? (by simp [isLiteralPlain, isPlain])))
      · have plain : isLiteralPlain c = true := by
          simp [isLiteralPlain, isPlain_of_writable first line, quotes]
        exact firstOf_cons_of_some (bind_of_some (char_cons plain rest))

end Callout.Toml
