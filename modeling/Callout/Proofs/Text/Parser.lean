import Callout.Text.Parser
import Mathlib.Data.List.TakeDrop

namespace Callout.Text.Parser

variable {α β : Type} {p : Parser α} {f : α → Parser β} {a : α} {cs rest : List Char}
  {accept : Char → Bool}

theorem bind_of_some (read : p cs = some (a, rest)) : (p >>= f) cs = f a rest := by
  show andThen p f cs = f a rest
  unfold andThen
  rw [read]

theorem bind_of_none (refused : p cs = none) : (p >>= f) cs = none := by
  show andThen p f cs = none
  unfold andThen
  rw [refused]

theorem exactly_append (word rest : List Char) : exactly word (word ++ rest) = some ((), rest) := by
  induction word with
  | nil => rfl
  | cons c word ih =>
    rw [List.cons_append, exactly]
    simpa using ih

theorem literal_append (s : String) (rest : List Char) :
    literal s (s.toList ++ rest) = some ((), rest) :=
  exactly_append s.toList rest

theorem span_append (accepted : ∀ c ∈ cs, accept c = true)
    (stop : ∀ c ∈ rest.head?, accept c = false) : (cs ++ rest).span accept = (cs, rest) := by
  have none : rest.takeWhile accept = [] ∧ rest.dropWhile accept = rest := by
    cases rest with
    | nil => exact ⟨rfl, rfl⟩
    | cons c rest =>
      have refused := stop c rfl
      exact ⟨List.takeWhile_cons_of_neg (by simp [refused]),
        List.dropWhile_cons_of_neg (by simp [refused])⟩
  rw [List.span_eq_takeWhile_dropWhile, List.takeWhile_append_of_pos accepted,
    List.dropWhile_append_of_pos accepted, none.1, none.2, List.append_nil]

theorem charsWhile_append (accepted : ∀ c ∈ cs, accept c = true)
    (stop : ∀ c ∈ rest.head?, accept c = false) :
    charsWhile accept (cs ++ rest) = some (cs, rest) := by
  rw [charsWhile, span_append accepted stop]

theorem charsWhile_of_head? (stop : ∀ c ∈ rest.head?, accept c = false) :
    charsWhile accept rest = some ([], rest) := by
  have none : ∀ c ∈ ([] : List Char), accept c = true := nofun
  exact charsWhile_append none stop

theorem charsWhile1_append (filled : cs ≠ []) (accepted : ∀ c ∈ cs, accept c = true)
    (stop : ∀ c ∈ rest.head?, accept c = false) :
    charsWhile1 accept (cs ++ rest) = some (cs, rest) := by
  obtain ⟨c, cs', rfl⟩ := List.exists_cons_of_ne_nil filled
  unfold charsWhile1
  rw [span_append accepted stop]

theorem charsWhile1_of_head? (stop : ∀ c ∈ rest.head?, accept c = false) :
    charsWhile1 accept rest = none := by
  have nothing : ([] ++ rest).span accept = ([], rest) := span_append nofun stop
  unfold charsWhile1
  rw [← List.nil_append rest, nothing]

theorem firstOf_cons_of_some {ps : List (Parser α)} (read : p cs = some (a, rest)) :
    firstOf (p :: ps) cs = some (a, rest) := by
  show orElse p (firstOf ps) cs = some (a, rest)
  unfold orElse
  rw [read]

theorem firstOf_cons_of_none {ps : List (Parser α)} (refused : p cs = none) :
    firstOf (p :: ps) cs = firstOf ps cs := by
  show orElse p (firstOf ps) cs = firstOf ps cs
  unfold orElse
  rw [refused]

theorem char_cons {c : Char} (accepted : accept c = true) (rest : List Char) :
    char accept (c :: rest) = some (c, rest) := by
  rw [char, if_pos accepted]

theorem char_of_head? (refused : ∀ c ∈ cs.head?, accept c = false) : char accept cs = none := by
  cases cs with
  | nil => rfl
  | cons c cs => rw [char, if_neg (by simp [refused c rfl])]

theorem literal_of_head? {c : Char} {s : String} (first : s.toList.head? = some c)
    (other : c ∉ cs.head?) : literal s cs = none := by
  obtain ⟨others, word⟩ := List.head?_eq_some_iff.mp first
  unfold literal
  rw [word]
  cases cs with
  | nil => rfl
  | cons d cs =>
    have different : d ≠ c := by simpa using other
    exact if_neg different

theorem optional_of_some (read : p cs = some (a, rest)) :
    optional p cs = some (some a, rest) := by
  rw [optional, read]

theorem optional_of_none (refused : p cs = none) : optional p cs = some (none, cs) := by
  rw [optional, refused]

theorem optionally_of_some {p : Parser Unit} (read : p cs = some ((), rest)) :
    optionally p cs = some ((), rest) := by
  rw [optionally, read]

theorem optionally_of_none {p : Parser Unit} (refused : p cs = none) :
    optionally p cs = some ((), cs) := by
  rw [optionally, refused]

theorem ahead_of_some (read : p cs = some (a, rest)) : ahead p cs = some ((), cs) := by
  rw [ahead, read]

theorem ahead_eq_some {r : Unit × List Char} (read : ahead p cs = some r) : r = ((), cs) := by
  unfold ahead at read
  split at read
  · exact (Option.some.inj read).symm
  · cases read

theorem ahead_of_none (refused : p cs = none) : ahead p cs = none := by
  rw [ahead, refused]

theorem orElse_of_some {q : Parser α} (read : p cs = some (a, rest)) :
    orElse p q cs = some (a, rest) := by
  rw [orElse, read]

theorem orElse_of_none {q : Parser α} (refused : p cs = none) : orElse p q cs = q cs := by
  rw [orElse, refused]

theorem upTo_char {n : Nat} (accepted : ∀ c ∈ cs, accept c = true)
    (stop : cs.length < n → ∀ c ∈ rest.head?, accept c = false) :
    upTo (char accept) n (cs ++ rest) = some (cs.take n, cs.drop n ++ rest) := by
  induction n generalizing cs with
  | zero => rfl
  | succ n ih =>
    cases cs with
    | nil =>
      have refused := char_of_head? (stop (Nat.succ_pos n))
      simp only [List.nil_append, upTo, refused, List.take_nil, List.drop_nil]
    | cons c cs =>
      obtain ⟨first, others⟩ := List.forall_mem_cons.mp accepted
      have later := ih others fun short => stop (Nat.succ_lt_succ short)
      simp only [List.cons_append, upTo, char_cons first, later, List.take_succ_cons,
        List.drop_succ_cons]

/-- What comes of reading `p` over and over, until it accepts no more. -/
inductive Repeats (p : Parser α) : List Char → List α → List Char → Prop
  | stop {cs : List Char} (refused : p cs = none) : Repeats p cs [] cs
  | step {cs rest last : List Char} {a : α} {as : List α} (read : p cs = some (a, rest))
      (shorter : rest.length < cs.length) (more : Repeats p rest as last) :
      Repeats p cs (a :: as) last

theorem Repeats.many_eq {as : List α} (h : Repeats p cs as rest) :
    many p cs = some (as, rest) := by
  suffices enough : ∀ n, cs.length ≤ n → upTo p n cs = some (as, rest) from enough _ (Nat.le_refl _)
  induction h with
  | stop refused =>
    intro n _
    cases n with
    | zero => rfl
    | succ n => simp only [upTo, refused]
  | step read shorter _ ih =>
    intro n long
    cases n with
    | zero => omega
    | succ n => simp only [upTo, read, ih n (by omega)]

/-- What `p` reads back one by one, `many` reads back in a row, up to where `p` accepts nothing. -/
theorem many_append {write : α → List Char} {as : List α}
    (reads : ∀ a ∈ as, ∀ rest, p (write a ++ rest) = some (a, rest))
    (written : ∀ a ∈ as, write a ≠ []) (stops : p rest = none) :
    many p (as.flatMap write ++ rest) = some (as, rest) := by
  apply Repeats.many_eq
  induction as with
  | nil => exact .stop stops
  | cons a as ih =>
    obtain ⟨first, others⟩ := List.forall_mem_cons.mp reads
    obtain ⟨filled, filled'⟩ := List.forall_mem_cons.mp written
    rw [List.flatMap_cons, List.append_assoc]
    refine .step (first _) ?_ (ih others filled')
    have positive := List.length_pos_iff.mpr filled
    simp only [List.length_append]
    omega

theorem sepBy1_single {sep : Parser Unit} (read : p cs = some (a, rest)) (last : sep rest = none) :
    sepBy1 p sep cs = some ([a], rest) := by
  have nothing : many (do sep; p) rest = some ([], rest) :=
    Repeats.many_eq (.stop (bind_of_none last))
  unfold sepBy1
  rw [bind_of_some read, bind_of_some nothing]
  rfl

end Callout.Text.Parser
