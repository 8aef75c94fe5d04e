import Callout.Proofs.Text.Words
import Mathlib.Logic.Relation

namespace Callout.Text

theorem apply_toLower {α : Type} (f : Char → α)
    (capitals : ∀ n < 26, f (Char.ofNat (65 + n)).toLower = f (Char.ofNat (65 + n))) (c : Char) :
    f c.toLower = f c := by
  by_cases capital : 65 ≤ c.toNat ∧ c.toNat ≤ 90
  · have same := capitals (c.toNat - 65) (by omega)
    have back : 65 + (c.toNat - 65) = c.toNat := by omega
    rwa [back, Char.ofNat_toNat] at same
  · have kept : c.toLower = c := dif_neg capital
    rw [kept]

theorem isSpace_toLower (c : Char) : isSpace c.toLower = isSpace c :=
  apply_toLower isSpace (by decide) c

theorem isWordChar_toLower (c : Char) : isWordChar c.toLower = isWordChar c :=
  apply_toLower isWordChar (by decide) c

theorem isCased_toLower (c : Char) : isCased c.toLower = isCased c :=
  apply_toLower isCased (by decide) c

theorem isCaseIgnorable_toLower (c : Char) : isCaseIgnorable c.toLower = isCaseIgnorable c :=
  apply_toLower isCaseIgnorable (by decide) c

theorem lowerChar_toLower (c : Char) : lowerChar c.toLower = lowerChar c :=
  apply_toLower lowerChar (by decide) c

theorem toLower_beq_sigma (c : Char) : (c.toLower == 'Σ') = (c == 'Σ') :=
  apply_toLower (· == 'Σ') (by decide) c

theorem startsCased_map_toLower (cs : List Char) :
    startsCased (cs.map Char.toLower) = startsCased cs := by
  have ignored : isCaseIgnorable ∘ Char.toLower = isCaseIgnorable := funext isCaseIgnorable_toLower
  unfold startsCased
  rw [List.dropWhile_map, ignored]
  cases cs.dropWhile isCaseIgnorable with
  | nil => rfl
  | cons c cs => exact isCased_toLower c

theorem lowerFrom_map_toLower (cased : Bool) (cs : List Char) :
    lowerFrom cased (cs.map Char.toLower) = lowerFrom cased cs := by
  -- On the text, for either state: a sigma looks back through `cased` and ahead at the rest.
  induction cs generalizing cased with
  | nil => rfl
  | cons c cs ih =>
    simp only [List.map_cons, lowerFrom, toLower_beq_sigma, startsCased_map_toLower,
      lowerChar_toLower, isCaseIgnorable_toLower, isCased_toLower, ih]

theorem wordOf_map_toLower (piece : List Char) :
    wordOf (piece.map Char.toLower) = wordOf piece := by
  have kept : (!isWordChar ·) ∘ Char.toLower = (!isWordChar ·) := by
    funext c
    simp only [Function.comp_apply, isWordChar_toLower]
  unfold wordOf lowerChars
  rw [trimBy_map, kept, lowerFrom_map_toLower]

theorem wordsOf_map_toLower (cs : List Char) : wordsOf (cs.map Char.toLower) = wordsOf cs := by
  have separates : isSpace ∘ Char.toLower = isSpace := funext isSpace_toLower
  have same : wordOf ∘ List.map Char.toLower = wordOf := funext wordOf_map_toLower
  unfold wordsOf
  rw [runs_map, separates, List.map_map, same]

def Blank (cs : List Char) : Prop :=
  ∀ c ∈ cs, isSpace c = true

def EndsBlank (cs : List Char) : Prop :=
  ∀ c ∈ cs.getLast?, isSpace c = true

def StartsBlank (cs : List Char) : Prop :=
  ∀ c ∈ cs.head?, isSpace c = true

instance (cs : List Char) : Decidable (Blank cs) :=
  decidable_of_iff (cs.all isSpace = true) List.all_eq_true

instance (cs : List Char) : Decidable (EndsBlank cs) :=
  decidable_of_iff (cs.getLast?.all isSpace = true) (Option.all_eq_true _ _)

instance (cs : List Char) : Decidable (StartsBlank cs) :=
  decidable_of_iff (cs.head?.all isSpace = true) (Option.all_eq_true _ _)

theorem Blank.endsBlank {cs : List Char} (blank : Blank cs) : EndsBlank cs :=
  fun c last => blank c (List.mem_of_getLast? last)

theorem Blank.startsBlank {cs : List Char} (blank : Blank cs) : StartsBlank cs :=
  fun c first => blank c (List.mem_of_head? first)

theorem wordsOf_of_blank {cs : List Char} (blank : Blank cs) : wordsOf cs = [] := by
  rw [wordsOf, runs_of_forall_sep blank, List.map_nil, List.filter_nil]

theorem wordsOf_append {left right : List Char} (gap : EndsBlank left ∨ StartsBlank right) :
    wordsOf (left ++ right) = wordsOf left ++ wordsOf right := by
  have parts : runs isSpace (left ++ right) = runs isSpace left ++ runs isSpace right := by
    rcases gap with ends | starts
    · exact runs_append_of_getLast? ends right
    · exact runs_append_of_head? starts left
  rw [wordsOf, parts, List.map_append, List.filter_append, wordsOf, wordsOf]

theorem wordsOf_append_blank {blank : List Char} (spaces : Blank blank) (left : List Char) :
    wordsOf (left ++ blank) = wordsOf left := by
  rw [wordsOf_append (.inr spaces.startsBlank), wordsOf_of_blank spaces, List.append_nil]

theorem wordsOf_blank_append {blank : List Char} (spaces : Blank blank) (right : List Char) :
    wordsOf (blank ++ right) = wordsOf right := by
  rw [wordsOf_append (.inl spaces.endsBlank), wordsOf_of_blank spaces, List.nil_append]

theorem StartsBlank.append {blank : List Char} (spaces : Blank blank) (filled : blank ≠ [])
    (right : List Char) : StartsBlank (blank ++ right) := by
  intro c first
  rw [List.head?_append_of_ne_nil blank filled] at first
  exact spaces.startsBlank c first

theorem words_append_blank (a b : String) {blank : String} (filled : blank ≠ "")
    (spaces : Blank blank.toList) : words (a ++ blank ++ b) = words a ++ words b := by
  have some : blank.toList ≠ [] := by
    rwa [Ne, String.toList_eq_nil_iff]
  unfold words
  rw [String.toList_append, String.toList_append, List.append_assoc,
    wordsOf_append (.inr (.append spaces some _)), wordsOf_blank_append spaces, List.map_append]

def isMark (c : Char) : Bool :=
  !isWordChar c && !isSpace c

def Marks (cs : List Char) : Prop :=
  ∀ c ∈ cs, isMark c = true

instance (cs : List Char) : Decidable (Marks cs) :=
  decidable_of_iff (cs.all isMark = true) List.all_eq_true

def Whole (cs : List Char) : Prop :=
  ∀ c ∈ cs, isSpace c = false

instance (cs : List Char) : Decidable (Whole cs) :=
  decidable_of_iff (cs.all (!isSpace ·) = true) (by simp [Whole])

theorem Marks.trimmed {cs : List Char} (marks : Marks cs) : ∀ c ∈ cs, (!isWordChar c) = true :=
  fun c member => (Bool.and_eq_true_iff.mp (marks c member)).1

theorem Marks.whole {cs : List Char} (marks : Marks cs) : Whole cs := by
  intro c member
  simpa using (Bool.and_eq_true_iff.mp (marks c member)).2

theorem Whole.append {cs ds : List Char} (whole : Whole cs) (whole' : Whole ds) :
    Whole (cs ++ ds) :=
  fun c member => (List.mem_append.mp member).elim (whole c) (whole' c)

theorem wordsOf_of_whole {word : List Char} (whole : Whole word) :
    wordsOf word = [wordOf word].filter (!·.isEmpty) := by
  cases word with
  | nil => rfl
  | cons c cs => rw [wordsOf, runs_of_forall (List.cons_ne_nil c cs) whole, List.map_singleton]

theorem wordsOf_marked {before behind word : List Char} (marks : Marks before)
    (marks' : Marks behind) (whole : Whole word) :
    wordsOf (before ++ word ++ behind) = wordsOf word := by
  rw [wordsOf_of_whole ((marks.whole.append whole).append marks'.whole), wordsOf_of_whole whole,
    wordOf, trimBy_append marks.trimmed marks'.trimmed, wordOf]

theorem wordsOf_of_marks {cs : List Char} (marks : Marks cs) : wordsOf cs = [] := by
  have same : wordsOf (cs ++ [] ++ []) = wordsOf [] := wordsOf_marked marks nofun nofun
  rwa [List.append_nil, List.append_nil] at same

/-- A text is spelled in another way. -/
inductive Respells : List Char → List Char → Prop where
  -- ASCII letters in another case.
  | recase {s t : List Char} (same : s.map Char.toLower = t.map Char.toLower) : Respells s t
  -- White space at an end of the text, or where there is some already.
  | space {left right blank : List Char} (gap : EndsBlank left ∨ StartsBlank right)
      (spaces : Blank blank) :
      Respells (left ++ right) (left ++ blank ++ right)
  -- Marks at the ends of a word.
  | mark {left right before word behind : List Char} (start : EndsBlank left)
      (stop : StartsBlank right) (whole : Whole word) (marks : Marks before)
      (marks' : Marks behind) :
      Respells (left ++ word ++ right) (left ++ (before ++ word ++ behind) ++ right)
  -- A further word, which consists of marks.
  | word {left right before marks behind : List Char} (gap : EndsBlank left ∨ StartsBlank right)
      (spaces : Blank before) (spaces' : Blank behind) (start : EndsBlank (left ++ before))
      (stop : StartsBlank (behind ++ right)) (marked : Marks marks) :
      Respells (left ++ right) (left ++ before ++ marks ++ (behind ++ right))

theorem Respells.wordsOf_eq {s t : List Char} (respells : Respells s t) :
    wordsOf s = wordsOf t := by
  cases respells with
  | recase same => rw [← wordsOf_map_toLower, same, wordsOf_map_toLower]
  | space gap spaces =>
    rw [wordsOf_append gap]
    rcases gap with ends | starts
    · rw [List.append_assoc, wordsOf_append (.inl ends), wordsOf_blank_append spaces]
    · rw [wordsOf_append (.inr starts), wordsOf_append_blank spaces]
  | mark start stop whole marks marks' =>
    rw [wordsOf_append (.inr stop), wordsOf_append (.inl start), wordsOf_append (.inr stop),
      wordsOf_append (.inl start), wordsOf_marked marks marks' whole]
  | word gap spaces spaces' start stop marked =>
    rw [wordsOf_append gap, wordsOf_append (.inr stop), wordsOf_append (.inl start),
      wordsOf_append_blank spaces, wordsOf_blank_append spaces', wordsOf_of_marks marked,
      List.append_nil]

def Respelled (s t : String) : Prop :=
  Relation.EqvGen Respells s.toList t.toList

theorem wordsOf_eq_of_eqvGen {s t : List Char} (steps : Relation.EqvGen Respells s t) :
    wordsOf s = wordsOf t := by
  induction steps with
  | rel _ _ step => exact step.wordsOf_eq
  | refl _ => rfl
  | symm _ _ _ ih => exact ih.symm
  | trans _ _ _ _ _ first second => exact first.trans second

theorem Respelled.words_eq {s t : String} (respelled : Respelled s t) : words s = words t := by
  rw [words, wordsOf_eq_of_eqvGen respelled, words]

end Callout.Text
