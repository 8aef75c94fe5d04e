import Callout.Grammar.Srgs
import Callout.Proofs.Text.Parser

namespace Callout

open Text.Parser (span_append)

def unescapeScript : List Char → List Char
  | [] => []
  | '\\' :: c :: cs => c :: unescapeScript cs
  | c :: cs => c :: unescapeScript cs

theorem unescapeScript_cons {c : Char} (plain : c ≠ '\\') (cs : List Char) :
    unescapeScript (c :: cs) = c :: unescapeScript cs := by
  simp [unescapeScript, plain]

theorem unescapeScript_append (c : Char) (cs : List Char) :
    unescapeScript (escapeScriptChar c ++ cs) = c :: unescapeScript cs := by
  unfold escapeScriptChar
  by_cases escaped : c = '\\' ∨ c = '"'
  · rw [if_pos escaped]
    rfl
  · rw [if_neg escaped, List.singleton_append]
    exact unescapeScript_cons (fun backslash => escaped (.inl backslash)) cs

theorem unescapeScript_escapeScript (s : String) :
    unescapeScript (escapeScript s).toList = s.toList := by
  rw [escapeScript, String.toList_ofList]
  induction s.toList with
  | nil => rfl
  | cons c cs ih => rw [List.flatMap_cons, unescapeScript_append, ih]

namespace TagValue

def written : TagValue → List Char
  | literal value => '"' :: ((escapeScript value).toList ++ ['"', ';'])
  | ruleOutput rule => ['r', 'u', 'l', 'e', 's', '.'] ++ (rule.toList ++ [';'])

def read : List Char → TagValue
  | '"' :: cs => .literal (.ofList (unescapeScript cs.dropLast.dropLast))
  | cs => .ruleOutput (.ofList (cs.drop 6).dropLast)

theorem read_written (v : TagValue) : read v.written = v := by
  cases v with
  | literal value =>
    have closing : ((escapeScript value).toList ++ ['"', ';']).dropLast.dropLast =
        (escapeScript value).toList := by
      rw [List.dropLast_append_of_ne_nil (by simp)]
      exact List.dropLast_concat
    show literal (.ofList (unescapeScript
      ((escapeScript value).toList ++ ['"', ';']).dropLast.dropLast)) = _
    rw [closing, unescapeScript_escapeScript, String.ofList_toList]
  | ruleOutput rule =>
    show ruleOutput (.ofList (rule.toList ++ [';']).dropLast) = _
    rw [List.dropLast_concat, String.ofList_toList]

end TagValue

namespace Tag

def read (script : String) : Tag :=
  let (field, value) := (script.toList.drop 4).span (· != '=')
  ⟨.ofList field, .read (value.drop 1)⟩

theorem toList_script (t : Tag) :
    t.script.toList = "out.".toList ++ (t.field.toList ++ '=' :: t.value.written) := by
  unfold script
  cases t.value <;> simp [TagValue.written]

theorem read_script {t : Tag} (plain : '=' ∉ t.field.toList) : read t.script = t := by
  have inside : ∀ c ∈ t.field.toList, (c != '=') = true := by
    intro c member
    rw [bne_iff_ne]
    rintro rfl
    exact plain member
  have parts : (t.script.toList.drop 4).span (· != '=') =
      (t.field.toList, '=' :: t.value.written) := by
    rw [toList_script]
    exact span_append inside (by simp)
  rw [read, parts]
  show Tag.mk (.ofList t.field.toList) (.read t.value.written) = t
  rw [String.ofList_toList, TagValue.read_written]

end Tag

def readCount (digits : List Char) : Nat :=
  Nat.ofDigitChars 10 digits 0

def readRange (range : String) : Nat × Option Nat :=
  let (min, max) := range.toList.span (· != '-')
  (readCount min, if (max.drop 1).isEmpty then none else some (readCount (max.drop 1)))

theorem toList_toString (n : Nat) : (toString n).toList = Nat.toDigits 10 n := by
  rw [Nat.toString_eq_repr, Nat.toList_repr]

theorem readCount_toString (n : Nat) : readCount (toString n).toList = n := by
  rw [toList_toString]
  exact Nat.ofDigitChars_ten_toDigits

theorem readRange_repeatRange (min : Nat) (max : Option Nat) :
    readRange (repeatRange min max) = (min, max) := by
  have inside : ∀ c ∈ (toString min).toList, (c != '-') = true := by
    intro c member
    rw [toList_toString] at member
    have digit := Nat.isDigit_of_mem_toDigits (by decide) (by decide) member
    rw [bne_iff_ne]
    rintro rfl
    exact absurd digit (by decide)
  have parts : (repeatRange min max).toList.span (· != '-') =
      ((toString min).toList, '-' :: ((max.map toString).getD "").toList) := by
    rw [repeatRange, String.toList_append, String.toList_append, List.append_assoc]
    exact span_append inside (by simp)
  unfold readRange
  rw [parts]
  cases max with
  | none => exact congrArg (·, none) (readCount_toString min)
  | some max =>
    have filled : (toString max).toList.isEmpty = false := by
      rw [toList_toString, List.isEmpty_eq_false_iff]
      exact Nat.toDigits_ne_nil
    show (readCount (toString min).toList, if (toString max).toList.isEmpty then none
      else some (readCount (toString max).toList)) = _
    rw [readCount_toString, readCount_toString, filled]
    rfl

end Callout
