import Callout.Xml.Basic
import Mathlib.Data.List.Infix

namespace Callout.Xml

def entities : List (String × Char) :=
  [("&amp;", '&'), ("&lt;", '<'), ("&gt;", '>'), ("&quot;", '"'), ("&apos;", '\x27')]

/-- Text that is no markup, and in which every ampersand starts a predefined entity. -/
structure Escaped (raw : List Char) : Prop where
  noLess : '<' ∉ raw
  noGreater : '>' ∉ raw
  entity : ∀ rest, rest <:+ raw → rest.head? = some '&' →
    ∃ e ∈ entities, e.1.toList <+: rest

def unescape : List Char → List Char
  | [] => []
  | '&' :: 'a' :: 'm' :: 'p' :: ';' :: cs => '&' :: unescape cs
  | '&' :: 'l' :: 't' :: ';' :: cs => '<' :: unescape cs
  | '&' :: 'g' :: 't' :: ';' :: cs => '>' :: unescape cs
  | '&' :: 'q' :: 'u' :: 'o' :: 't' :: ';' :: cs => '"' :: unescape cs
  | '&' :: 'a' :: 'p' :: 'o' :: 's' :: ';' :: cs => '\x27' :: unescape cs
  | c :: cs => c :: unescape cs

/-- How a character is written: as it is, or as its entity. -/
inductive Writes (c : Char) : List Char → Prop
  | plain (amp : c ≠ '&') (less : c ≠ '<') (greater : c ≠ '>') : Writes c [c]
  | entity {name : String} (known : (name, c) ∈ entities) : Writes c name.toList

theorem writes_escapeTextChar (c : Char) : Writes c (escapeTextChar c) := by
  unfold escapeTextChar
  split
  · rename_i amp
    subst amp
    exact .entity (by decide)
  · split
    · rename_i less
      subst less
      exact .entity (by decide)
    · split
      · rename_i greater
        subst greater
        exact .entity (by decide)
      · exact .plain ‹_› ‹_› ‹_›

theorem writes_escapeAttributeChar (c : Char) : Writes c (escapeAttributeChar c) := by
  unfold escapeAttributeChar
  split
  · rename_i quote
    subst quote
    exact .entity (by decide)
  · split
    · rename_i apostrophe
      subst apostrophe
      exact .entity (by decide)
    · exact writes_escapeTextChar c

theorem entity_eq_cons {name : String} {c : Char} (known : (name, c) ∈ entities) :
    ∃ word, name.toList = '&' :: word ∧ ∀ d ∈ word, d ≠ '&' ∧ d ≠ '<' ∧ d ≠ '>' := by
  have table : ∀ e ∈ entities, e.1.toList.head? = some '&' ∧
      e.1.toList.tail.all (fun d => d != '&' && d != '<' && d != '>') = true := by decide
  obtain ⟨head, tail⟩ := table _ known
  refine ⟨_, (List.cons_head?_tail head).symm, ?_⟩
  intro d member
  have plain := List.all_eq_true.mp tail d member
  simpa [and_assoc] using plain

theorem quote_not_mem_entity {name : String} {c : Char} (known : (name, c) ∈ entities) :
    '"' ∉ name.toList := by
  have table : ∀ e ∈ entities, '"' ∉ e.1.toList := by decide
  exact table _ known

theorem unescape_entity_append {name : String} {c : Char} (known : (name, c) ∈ entities)
    (cs : List Char) : unescape (name.toList ++ cs) = c :: unescape cs := by
  have table : ∀ e ∈ entities, unescape (e.1.toList ++ cs) = e.2 :: unescape cs := by
    simp only [entities, List.forall_mem_cons]
    exact ⟨rfl, rfl, rfl, rfl, rfl, nofun⟩
  exact table _ known

theorem unescape_cons {c : Char} (amp : c ≠ '&') (cs : List Char) :
    unescape (c :: cs) = c :: unescape cs := by
  simp [unescape, amp]

theorem Writes.unescape_append {c : Char} {written : List Char} (writes : Writes c written)
    (cs : List Char) : unescape (written ++ cs) = c :: unescape cs := by
  cases writes with
  | plain amp => exact unescape_cons amp cs
  | entity known => exact unescape_entity_append known cs

theorem Escaped.nil : Escaped [] := by
  refine ⟨nofun, nofun, ?_⟩
  intro rest suffix head
  rw [List.suffix_nil.mp suffix] at head
  cases head

theorem Escaped.cons {c : Char} {cs : List Char} (escaped : Escaped cs) (amp : c ≠ '&')
    (less : c ≠ '<') (greater : c ≠ '>') : Escaped (c :: cs) := by
  refine ⟨by simp [escaped.noLess, less.symm], by simp [escaped.noGreater, greater.symm], ?_⟩
  intro rest suffix head
  rcases List.suffix_cons_iff.mp suffix with rfl | later
  · exact absurd (Option.some.inj head) amp
  · exact escaped.entity rest later head

theorem Escaped.append {word cs : List Char} (escaped : Escaped cs)
    (plain : ∀ c ∈ word, c ≠ '&' ∧ c ≠ '<' ∧ c ≠ '>') : Escaped (word ++ cs) := by
  induction word with
  | nil => exact escaped
  | cons c word ih =>
    obtain ⟨⟨amp, less, greater⟩, others⟩ := List.forall_mem_cons.mp plain
    exact (ih others).cons amp less greater

theorem Writes.escaped_append {c : Char} {written cs : List Char} (writes : Writes c written)
    (escaped : Escaped cs) : Escaped (written ++ cs) := by
  cases writes with
  | plain amp less greater => exact escaped.cons amp less greater
  | entity known =>
    -- Behind its ampersand an entity is plain.
    obtain ⟨word, shape, plain⟩ := entity_eq_cons known
    have tail : Escaped (word ++ cs) := escaped.append plain
    refine ⟨?_, ?_, ?_⟩
    · simpa [shape] using tail.noLess
    · simpa [shape] using tail.noGreater
    · intro rest suffix head
      rw [shape, List.cons_append] at suffix
      rcases List.suffix_cons_iff.mp suffix with rfl | later
      · exact ⟨_, known, by simp [shape]⟩
      · exact tail.entity rest later head

section

variable {write : Char → List Char} (writes : ∀ c, Writes c (write c)) (cs : List Char)

include writes

theorem unescape_flatMap : unescape (cs.flatMap write) = cs := by
  induction cs with
  | nil => rfl
  | cons c cs ih => rw [List.flatMap_cons, (writes c).unescape_append, ih]

theorem escaped_flatMap : Escaped (cs.flatMap write) := by
  induction cs with
  | nil => exact .nil
  | cons c cs ih => exact (writes c).escaped_append ih

end

theorem unescape_escapeText (s : String) : unescape (escapeText s).toList = s.toList := by
  rw [escapeText, String.toList_ofList]
  exact unescape_flatMap writes_escapeTextChar s.toList

theorem unescape_escapeAttribute (s : String) :
    unescape (escapeAttribute s).toList = s.toList := by
  rw [escapeAttribute, String.toList_ofList]
  exact unescape_flatMap writes_escapeAttributeChar s.toList

theorem escaped_escapeText (s : String) : Escaped (escapeText s).toList := by
  rw [escapeText, String.toList_ofList]
  exact escaped_flatMap writes_escapeTextChar s.toList

theorem escaped_escapeAttribute (s : String) : Escaped (escapeAttribute s).toList := by
  rw [escapeAttribute, String.toList_ofList]
  exact escaped_flatMap writes_escapeAttributeChar s.toList

theorem Writes.quote_not_mem {c : Char} {written : List Char} (writes : Writes c written)
    (quote : c ≠ '"') : '"' ∉ written := by
  cases writes with
  | plain => simpa using quote.symm
  | entity known => exact quote_not_mem_entity known

theorem quote_not_mem_escapeAttribute (s : String) : '"' ∉ (escapeAttribute s).toList := by
  rw [escapeAttribute, String.toList_ofList]
  intro member
  obtain ⟨c, _, member⟩ := List.mem_flatMap.mp member
  by_cases quote : c = '"'
  · subst quote
    revert member
    decide
  · exact (writes_escapeAttributeChar c).quote_not_mem quote member

end Callout.Xml
