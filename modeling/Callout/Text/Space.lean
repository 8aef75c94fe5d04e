namespace Callout.Text

def isSpace (c : Char) : Bool :=
  c == ' ' || ('\t' ≤ c && c ≤ '\r') || c == '\u0085' || c == '\u00a0' || c == '\u1680'
    || ('\u2000' ≤ c && c ≤ '\u200a') || c == '\u2028' || c == '\u2029' || c == '\u202f'
    || c == '\u205f' || c == '\u3000'

def trimBy (p : Char → Bool) (cs : List Char) : List Char :=
  ((cs.dropWhile p).reverse.dropWhile p).reverse

def trim (s : String) : String :=
  .ofList (trimBy isSpace s.toList)

/-- The longest non-empty pieces that hold no separator, from left to right. -/
def runs (sep : Char → Bool) (cs : List Char) : List (List Char) :=
  (cs.splitOnP sep).filter (!·.isEmpty)

theorem runs_nil (sep : Char → Bool) : runs sep [] = [] := rfl

theorem ne_nil_of_mem_runs {sep : Char → Bool} {cs piece : List Char}
    (h : piece ∈ runs sep cs) : piece ≠ [] := by
  intro e
  simp [runs, e] at h

end Callout.Text
