import Callout.Text.Space
import Mathlib.Data.List.DropRight

namespace Callout.Text

variable {sep : Char → Bool}

theorem runs_append_sep {c : Char} (h : sep c = true) (left right : List Char) :
    runs sep (left ++ c :: right) = runs sep left ++ runs sep right := by
  unfold runs
  rw [List.splitOnP_append_cons left right h, List.filter_append]

theorem runs_cons_sep {c : Char} (h : sep c = true) (cs : List Char) :
    runs sep (c :: cs) = runs sep cs := by
  have parts := runs_append_sep h [] cs
  rwa [runs_nil, List.nil_append, List.nil_append] at parts

theorem runs_append_of_head? {right : List Char} (opens : ∀ c ∈ right.head?, sep c = true)
    (left : List Char) : runs sep (left ++ right) = runs sep left ++ runs sep right := by
  cases right with
  | nil => rw [runs_nil, List.append_nil, List.append_nil]
  | cons c right =>
    have separates := opens c rfl
    rw [runs_append_sep separates, runs_cons_sep separates]

theorem runs_append_of_getLast? {left : List Char} (closes : ∀ c ∈ left.getLast?, sep c = true)
    (right : List Char) : runs sep (left ++ right) = runs sep left ++ runs sep right := by
  rcases List.eq_nil_or_concat' left with rfl | ⟨others, c, rfl⟩
  · rw [runs_nil, List.nil_append, List.nil_append]
  · have separates := closes c (by simp)
    rw [List.append_assoc, List.singleton_append, runs_append_sep separates,
      runs_append_sep separates, runs_nil, List.append_nil]

theorem runs_intercalate {c : Char} (h : sep c = true) (pieces : List (List Char)) :
    runs sep ([c].intercalate pieces) = pieces.flatMap (runs sep) := by
  induction pieces with
  | nil => rfl
  | cons piece pieces ih =>
    cases pieces with
    | nil => simp
    | cons next pieces =>
      rw [List.intercalate_cons_cons, List.append_assoc, List.singleton_append,
        runs_append_sep h, ih, ← List.flatMap_cons]

theorem runs_dropWhile (cs : List Char) : runs sep (cs.dropWhile sep) = runs sep cs := by
  induction cs with
  | nil => rfl
  | cons c cs ih =>
    by_cases separates : sep c = true
    · rw [List.dropWhile_cons_of_pos separates, runs_cons_sep separates, ih]
    · rw [List.dropWhile_cons_of_neg separates]

theorem runs_rdropWhile (cs : List Char) : runs sep (cs.rdropWhile sep) = runs sep cs := by
  induction cs using List.reverseRecOn with
  | nil => rfl
  | append_singleton cs c ih =>
    by_cases separates : sep c = true
    · rw [List.rdropWhile_concat_pos _ _ _ separates, runs_append_sep separates, runs_nil,
        List.append_nil, ih]
    · rw [List.rdropWhile_concat_neg _ _ _ separates]

theorem runs_trimBy (cs : List Char) : runs sep (trimBy sep cs) = runs sep cs := by
  have ends : trimBy sep cs = (cs.dropWhile sep).rdropWhile sep := rfl
  rw [ends, runs_rdropWhile, runs_dropWhile]

theorem runs_of_forall {cs : List Char} (ne : cs ≠ []) (h : ∀ c ∈ cs, sep c = false) :
    runs sep cs = [cs] := by
  unfold runs
  rw [List.splitOnP_eq_singleton h]
  simp [ne]

theorem runs_of_forall_sep {cs : List Char} (h : ∀ c ∈ cs, sep c = true) : runs sep cs = [] := by
  induction cs with
  | nil => rfl
  | cons c cs ih =>
    obtain ⟨first, others⟩ := List.forall_mem_cons.mp h
    rw [runs_cons_sep first, ih others]

theorem not_sep_of_mem_splitOnP {cs piece : List Char} (h : piece ∈ cs.splitOnP sep) :
    ∀ c ∈ piece, sep c = false := by
  induction cs generalizing piece with
  | nil =>
    rw [List.splitOnP_nil, List.mem_singleton] at h
    rw [h]
    exact nofun
  | cons c cs ih =>
    rw [List.splitOnP_cons_eq_if_modifyHead] at h
    by_cases separates : sep c = true
    · rw [if_pos separates] at h
      rcases List.mem_cons.mp h with rfl | later
      · exact nofun
      · exact ih later
    · rw [if_neg separates] at h
      -- The first piece goes on with this character.
      obtain ⟨first, others, parts⟩ :=
        List.exists_cons_of_ne_nil (List.splitOnP_ne_nil sep cs)
      rw [parts] at h ih
      rcases List.mem_cons.mp h with rfl | later
      · intro d member
        rcases List.mem_cons.mp member with rfl | member
        · exact Bool.eq_false_iff.mpr separates
        · exact ih List.mem_cons_self d member
      · exact ih (List.mem_cons_of_mem _ later)

theorem not_sep_of_mem_runs {cs piece : List Char} (h : piece ∈ runs sep cs) :
    ∀ c ∈ piece, sep c = false :=
  not_sep_of_mem_splitOnP (List.mem_filter.mp h).1

theorem splitOnP_map (f : Char → Char) (cs : List Char) :
    (cs.map f).splitOnP sep = (cs.splitOnP (sep ∘ f)).map (List.map f) := by
  induction cs with
  | nil => rfl
  | cons c cs ih =>
    rw [List.map_cons, List.splitOnP_cons_eq_if_modifyHead, List.splitOnP_cons_eq_if_modifyHead,
      ih]
    by_cases separates : sep (f c) = true
    · rw [if_pos separates, if_pos (by simpa using separates)]
      rfl
    · rw [if_neg separates, if_neg (by simpa using separates)]
      cases cs.splitOnP (sep ∘ f) <;> rfl

theorem runs_map (f : Char → Char) (cs : List Char) :
    runs sep (cs.map f) = (runs (sep ∘ f) cs).map (List.map f) := by
  unfold runs
  rw [splitOnP_map, List.filter_map]
  simp [Function.comp_def]

theorem trimBy_map (f : Char → Char) (p : Char → Bool) (cs : List Char) :
    trimBy p (cs.map f) = (trimBy (p ∘ f) cs).map f := by
  unfold trimBy
  rw [List.dropWhile_map, ← List.map_reverse, List.dropWhile_map, List.map_reverse]

theorem trimBy_append {p : Char → Bool} {left right : List Char} (before : ∀ c ∈ left, p c = true)
    (behind : ∀ c ∈ right, p c = true) (cs : List Char) :
    trimBy p (left ++ cs ++ right) = trimBy p cs := by
  have start : (left ++ cs ++ right).dropWhile p = (cs ++ right).dropWhile p := by
    rw [List.append_assoc, List.dropWhile_append_of_pos before]
  have rest : right.dropWhile p = [] := by simpa using behind
  unfold trimBy
  rw [start, List.dropWhile_append]
  cases all : (cs.dropWhile p).isEmpty with
  | true => rw [if_pos rfl, rest, List.isEmpty_iff.mp all]
  | false =>
    rw [if_neg Bool.false_ne_true, List.reverse_append,
      List.dropWhile_append_of_pos (by simpa using behind)]

end Callout.Text
