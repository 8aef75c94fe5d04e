import Callout.Proofs.Grammar.Script
import Callout.Proofs.Xml.Tree
import Mathlib.Algebra.Ring.Parity
import Mathlib.Data.List.DropRight

namespace Callout

open Xml (Line isLayout)

def replaced (c : Char) (word cs : List Char) : List Char :=
  cs.flatMap fun d => if d = c then word else [d]

/-- The backslashes have to be replaced first: those in front of the quotes stay as they are. -/
theorem toList_escapeScript_eq_replaced (s : String) :
    (escapeScript s).toList = replaced '"' ['\\', '"'] (replaced '\\' ['\\', '\\'] s.toList) := by
  rw [escapeScript, String.toList_ofList, replaced, replaced, List.flatMap_assoc]
  refine List.flatMap_congr fun c _ => ?_
  by_cases backslash : c = '\\'
  · subst backslash
    rfl
  · by_cases quote : c = '"'
    · subst quote
      rfl
    · simp [escapeScriptChar, backslash, quote]

theorem toList_escapeText_eq_replaced (s : String) :
    (Xml.escapeText s).toList = replaced '>' "&gt;".toList
      (replaced '<' "&lt;".toList (replaced '&' "&amp;".toList s.toList)) := by
  rw [Xml.escapeText, String.toList_ofList, replaced, replaced, replaced, List.flatMap_assoc,
    List.flatMap_assoc]
  refine List.flatMap_congr fun c _ => ?_
  by_cases amp : c = '&'
  · subst amp
    rfl
  · by_cases less : c = '<'
    · subst less
      rfl
    · by_cases greater : c = '>'
      · subst greater
        rfl
      · simp [Xml.escapeTextChar, amp, less, greater]

def endingBackslashes (cs : List Char) : Nat :=
  (cs.rtakeWhile (· == '\\')).length

theorem endingBackslashes_concat_backslash (cs : List Char) :
    endingBackslashes (cs ++ ['\\']) = endingBackslashes cs + 1 := by
  rw [endingBackslashes, List.rtakeWhile_concat_pos _ _ _ rfl, List.length_append]
  rfl

theorem endingBackslashes_concat {c : Char} (plain : c ≠ '\\') (cs : List Char) :
    endingBackslashes (cs ++ [c]) = 0 := by
  rw [endingBackslashes, List.rtakeWhile_concat_neg _ _ _ (by simpa using plain)]
  rfl

theorem even_endingBackslashes_escapeScriptChar {written : List Char}
    (even : Even (endingBackslashes written)) (c : Char) :
    Even (endingBackslashes (written ++ escapeScriptChar c)) := by
  by_cases backslash : c = '\\'
  · subst backslash
    have pair : written ++ escapeScriptChar '\\' = (written ++ ['\\']) ++ ['\\'] := by
      rw [List.append_assoc]
      rfl
    rw [pair, endingBackslashes_concat_backslash, endingBackslashes_concat_backslash]
    exact even.add even_two
  · -- Whatever stands in front of it, any other character comes last.
    obtain ⟨before, last⟩ : ∃ before, written ++ escapeScriptChar c = before ++ [c] := by
      unfold escapeScriptChar
      split
      · exact ⟨written ++ ['\\'], by simp⟩
      · exact ⟨written, rfl⟩
    rw [last, endingBackslashes_concat backslash]
    exact Even.zero

theorem even_endingBackslashes_flatMap {written : List Char}
    (even : Even (endingBackslashes written)) (cs : List Char) :
    Even (endingBackslashes (written ++ cs.flatMap escapeScriptChar)) := by
  induction cs generalizing written with
  | nil => rwa [List.flatMap_nil, List.append_nil]
  | cons c cs ih =>
    rw [List.flatMap_cons, ← List.append_assoc]
    exact ih (even_endingBackslashes_escapeScriptChar even c)

theorem eq_backslash_of_escapeScriptChar {c : Char} {before after : List Char}
    (split : escapeScriptChar c = before ++ '"' :: after) : before = ['\\'] := by
  unfold escapeScriptChar at split
  split at split
  · match before, split with
    | [], split => cases split
    | [d], split => rw [(List.cons.inj split).1]
    | d :: e :: before, split => simp at split
  · rename_i plain
    match before, split with
    | [], split => exact absurd (.inr (List.cons.inj split).1) plain
    | d :: before, split => simp at split

theorem odd_endingBackslashes_of_quote {written cs before after : List Char}
    (even : Even (endingBackslashes written))
    (split : cs.flatMap escapeScriptChar = before ++ '"' :: after) :
    Odd (endingBackslashes (written ++ before)) := by
  induction cs generalizing written before with
  | nil => simp at split
  | cons c cs ih =>
    have later : ∀ rest, before = escapeScriptChar c ++ rest →
        cs.flatMap escapeScriptChar = rest ++ '"' :: after →
        Odd (endingBackslashes (written ++ before)) := by
      rintro rest rfl split
      rw [← List.append_assoc]
      exact ih (even_endingBackslashes_escapeScriptChar even c) split
    rw [List.flatMap_cons] at split
    rcases List.append_eq_append_iff.mp split with ⟨rest, front, split⟩ | ⟨rest, front, split⟩
    · exact later rest front split
    · match rest, front, split with
      | [], front, split => exact later [] (by simpa using front.symm) split.symm
      | d :: rest, front, split =>
        obtain ⟨rfl, -⟩ := List.cons.inj split
        rw [eq_backslash_of_escapeScriptChar front, endingBackslashes_concat_backslash]
        exact even.add_one

def readLiteral? : List Char → Option (List Char × List Char)
  | [] => none
  | '"' :: cs => some ([], cs)
  | '\\' :: c :: cs => (readLiteral? cs).map fun (value, rest) => (c :: value, rest)
  | c :: cs => (readLiteral? cs).map fun (value, rest) => (c :: value, rest)

theorem readLiteral?_escapeScriptChar (c : Char) (cs : List Char) :
    readLiteral? (escapeScriptChar c ++ cs) =
      (readLiteral? cs).map fun (value, rest) => (c :: value, rest) := by
  unfold escapeScriptChar
  by_cases escaped : c = '\\' ∨ c = '"'
  · rw [if_pos escaped]
    rfl
  · obtain ⟨backslash, quote⟩ := not_or.mp escaped
    rw [if_neg escaped, List.singleton_append]
    simp [readLiteral?, backslash]

theorem readLiteral?_flatMap (cs rest : List Char) :
    readLiteral? (cs.flatMap escapeScriptChar ++ '"' :: rest) = some (cs, rest) := by
  induction cs with
  | nil => rfl
  | cons c cs ih =>
    rw [List.flatMap_cons, List.append_assoc, readLiteral?_escapeScriptChar, ih]
    rfl

structure Quotes (body value : String) : Prop where
  quote : ∀ before after, body.toList = before ++ '"' :: after → Odd (endingBackslashes before)
  closing : Even (endingBackslashes body.toList)
  unescaped : unescapeScript body.toList = value.toList
  ends : ∀ rest, readLiteral? (body.toList ++ '"' :: rest) = some (value.toList, rest)

theorem quotes_escapeScript (value : String) : Quotes (escapeScript value) value where
  quote := by
    intro before after split
    rw [escapeScript, String.toList_ofList] at split
    exact @odd_endingBackslashes_of_quote [] _ _ _ Even.zero split
  closing := by
    rw [escapeScript, String.toList_ofList]
    exact @even_endingBackslashes_flatMap [] Even.zero value.toList
  unescaped := unescapeScript_escapeScript value
  ends := by
    intro rest
    rw [escapeScript, String.toList_ofList, readLiteral?_flatMap]

namespace Tag

def line (t : Tag) (depth : Nat) : Line :=
  ⟨depth, "<tag>" ++ Xml.escapeText t.script ++ "</tag>"⟩

theorem lines_eq (t : Tag) (depth : Nat) :
    (Element.tag t).expansion.node.lines depth = [t.line depth] := by
  show [Line.mk depth ("<" ++ Xml.tagText "tag" [] ++ ">" ++ Xml.escapeText t.script ++ "</" ++
    "tag" ++ ">")] = _
  simp [line, Xml.tagText, String.append_assoc]

theorem dropWhile_render (t : Tag) (depth : Nat) :
    (t.line depth).render.toList.dropWhile isLayout =
      "<tag>".toList ++ ((Xml.escapeText t.script).toList ++ "</tag>\n".toList) := by
  have blank : ∀ c ∈ (String.join (List.replicate depth "  ")).toList, isLayout c = true := by
    intro c member
    apply Xml.Gap.isLayout_of_mem depth c
    rw [Xml.Gap.text, String.toList_append]
    exact List.mem_append_right _ member
  have written : (t.line depth).render.toList =
      (String.join (List.replicate depth "  ")).toList ++
        ("<tag>".toList ++ ((Xml.escapeText t.script).toList ++ "</tag>\n".toList)) := by
    simp [Line.render, line]
  rw [written, List.dropWhile_append_of_pos blank]
  rfl

theorem script_eq_of_render_eq {t u : Tag} {depth level : Nat}
    (same : (t.line depth).render = (u.line level).render) : t.script = u.script := by
  have text := congrArg (fun s => s.toList.dropWhile isLayout) same
  simp only [dropWhile_render] at text
  have escaped := List.append_cancel_right (List.append_cancel_left text)
  have unescaped := congrArg Xml.unescape escaped
  rw [Xml.unescape_escapeText, Xml.unescape_escapeText] at unescaped
  exact String.toList_inj.mp unescaped

theorem toList_script_literal (field value : String) :
    (script ⟨field, .literal value⟩).toList =
      "out.".toList ++ ((field.toList ++ '=' :: '"' :: (escapeScript value).toList) ++
        ['"', ';']) := by
  rw [toList_script]
  simp [TagValue.written]

/-- The opening quote is the only one behind an equals sign, so the field may hold anything. -/
theorem field_eq_of_shorter {field field' : List Char} {value value' : String}
    (same : field ++ '=' :: '"' :: (escapeScript value).toList =
      field' ++ '=' :: '"' :: (escapeScript value').toList) (shorter : field <+: field') :
    field = field' := by
  obtain ⟨rest, rfl⟩ := shorter
  rw [List.append_assoc] at same
  have behind := List.append_cancel_left same
  match rest, behind with
  | [], _ => rw [List.append_nil]
  | [c], behind => simp at behind
  | c :: d :: rest, behind =>
    obtain ⟨-, behind⟩ := List.cons.inj behind
    obtain ⟨-, body⟩ := List.cons.inj behind
    have odd := (quotes_escapeScript value).quote (rest ++ ['=']) _ (by simpa using body)
    rw [endingBackslashes_concat (by decide)] at odd
    exact absurd odd Nat.not_odd_zero

theorem literal_inj {field field' value value' : String}
    (same : script ⟨field, .literal value⟩ = script ⟨field', .literal value'⟩) :
    field = field' ∧ value = value' := by
  have written := congrArg String.toList same
  rw [toList_script_literal, toList_script_literal] at written
  have front := List.append_cancel_right (List.append_cancel_left written)
  have fields : field.toList = field'.toList := by
    rcases List.prefix_or_prefix_of_prefix (List.prefix_append field.toList _)
      (front ▸ List.prefix_append field'.toList _) with shorter | shorter
    · exact field_eq_of_shorter front shorter
    · exact (field_eq_of_shorter front.symm shorter).symm
  rw [fields] at front
  obtain ⟨-, behind⟩ := List.cons.inj (List.append_cancel_left front)
  obtain ⟨-, bodies⟩ := List.cons.inj behind
  have values := congrArg unescapeScript bodies
  rw [unescapeScript_escapeScript, unescapeScript_escapeScript] at values
  exact ⟨String.toList_inj.mp fields, String.toList_inj.mp values⟩

/-- The line of a literal, its entities replaced, holds the literal between two quotes of which
the second is the first one to close it, and no other literal is written as this line. -/
theorem literal_lossless (field value : String) :
    (∃ content body : String,
      (∀ depth, (Element.tag ⟨field, .literal value⟩).expansion.node.lines depth =
        [⟨depth, "<tag>" ++ content ++ "</tag>"⟩]) ∧
      Xml.unescape content.toList = ("out." ++ field ++ "=\"" ++ body ++ "\";").toList ∧
      Quotes body value) ∧
    ∀ field' value' depth depth',
      ((Element.tag ⟨field, .literal value⟩).expansion.node.lines depth).map (·.render) =
        ((Element.tag ⟨field', .literal value'⟩).expansion.node.lines depth').map (·.render) →
      field = field' ∧ value = value' := by
  refine ⟨⟨Xml.escapeText (script ⟨field, .literal value⟩), escapeScript value, lines_eq _, ?_,
    quotes_escapeScript value⟩, ?_⟩
  · exact Xml.unescape_escapeText _
  · intro field' value' depth depth' same
    rw [lines_eq, lines_eq] at same
    exact literal_inj (script_eq_of_render_eq (List.cons.inj same).1)

end Tag

end Callout
