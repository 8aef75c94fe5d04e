import Callout.Proofs.Toml.Document
import Callout.Proofs.Toml.Table

namespace Callout.Toml

namespace Section

def lines (s : Section) : List Line :=
  .header s.name :: s.entries.map fun entry => .entry entry.1 entry.2

structure Writable (s : Section) : Prop where
  name : IsBare s.name
  entries : ∀ entry ∈ s.entries, IsBare entry.1 ∧ entry.2.Writable

theorem Writable.lines {s : Section} (writable : s.Writable) : ∀ l ∈ s.lines, l.Writable := by
  intro l member
  rcases List.mem_cons.mp member with rfl | member
  · exact writable.name
  · obtain ⟨entry, here, rfl⟩ := List.mem_map.mp member
    exact writable.entries entry here

theorem filterMap_lines (s : Section) : s.lines.filterMap Line.statement? = s.statements := by
  rw [lines, List.filterMap_cons, List.filterMap_map, statements, ← List.filterMap_eq_map]
  rfl

end Section

variable {sections : List Section} {ls : List Line}

theorem document_append (ls ls' : List Line) :
    document (ls ++ ls') = document ls ++ document ls' := by
  rw [document, List.map_append, String.join_append]
  rfl

def linesOf (sections : List Section) : List Line :=
  [Line.blank].intercalate (sections.map Section.lines)

theorem linesOf_cons_cons (s s' : Section) (sections : List Section) :
    linesOf (s :: s' :: sections) = s.lines ++ [.blank] ++ linesOf (s' :: sections) :=
  List.intercalate_cons_cons

theorem document_lines (s : Section) : document s.lines = s.text := by
  have entries : ∀ entries : List (String × Scalar),
      document (entries.map fun entry => .entry entry.1 entry.2) =
        String.join (entries.map fun entry => entry.1 ++ " = " ++ entry.2.text ++ "\n") := by
    intro entries
    rw [document, List.map_map]
    rfl
  have cons : s.lines = [.header s.name] ++ s.entries.map fun entry => .entry entry.1 entry.2 := rfl
  rw [cons, document_append, entries]
  simp [document, Section.text, Line.text, String.join_cons, String.append_assoc]

theorem render_eq (sections : List Section) : render sections = document (linesOf sections) := by
  induction sections with
  | nil => rfl
  | cons s sections ih =>
    cases sections with
    | nil => simpa [render, linesOf] using (document_lines s).symm
    | cons s' sections =>
      have blank : document [Line.blank] = "\n" := rfl
      rw [linesOf_cons_cons, document_append, document_append, document_lines, blank, ← ih]
      exact String.intercalate_cons_cons

/-- The lines are those of the sections. Blank ones may stand anywhere. -/
def Lists (ls : List Line) (sections : List Section) : Prop :=
  ls.filter (· ≠ .blank) = sections.flatMap Section.lines

instance (ls : List Line) (sections : List Section) : Decidable (Lists ls sections) :=
  inferInstanceAs (Decidable (_ = _))

theorem lists_linesOf (sections : List Section) : Lists (linesOf sections) sections := by
  have filled : ∀ s : Section, s.lines.filter (· ≠ .blank) = s.lines := by
    intro s
    apply List.filter_eq_self.mpr
    intro l member
    rcases List.mem_cons.mp member with rfl | member
    · rfl
    · obtain ⟨entry, -, rfl⟩ := List.mem_map.mp member
      rfl
  unfold Lists
  induction sections with
  | nil => rfl
  | cons s sections ih =>
    cases sections with
    | nil => simpa [linesOf] using filled s
    | cons s' sections =>
      rw [linesOf_cons_cons, List.filter_append, List.filter_append, filled, ih, List.flatMap_cons,
        List.append_assoc]
      rfl

theorem parse?_document (unrepeated : Unrepeated sections) (writable : ∀ s ∈ sections, s.Writable)
    (lists : Lists ls sections) : parse? (document ls) = some (tableOf sections) := by
  have lines : ∀ l ∈ ls, l.Writable := by
    intro l member
    by_cases blank : l = .blank
    · subst blank
      trivial
    · have member : l ∈ ls.filter (· ≠ .blank) := List.mem_filter.mpr ⟨member, by simpa using blank⟩
      rw [lists] at member
      obtain ⟨s, here, member⟩ := List.mem_flatMap.mp member
      exact (writable s here).lines l member
  have stated : ls.filterMap Line.statement? = sections.flatMap Section.statements := by
    have same : ls.filterMap Line.statement? =
        (ls.filter (· ≠ .blank)).filterMap Line.statement? := by
      rw [List.filterMap_filter]
      apply List.filterMap_congr
      intro l _
      cases l <;> rfl
    rw [same, lists, List.filterMap_flatMap]
    simp only [Section.filterMap_lines]
  rw [parse?, statements_document lines, stated]
  exact ofStatements?_sections unrepeated

structure Selection where
  sections : String → Bool
  entries : String → String → Bool

namespace Selection

def within (kept : Selection) (s : Section) : Section :=
  { s with entries := s.entries.filter fun entry => kept.entries s.name entry.1 }

def apply (kept : Selection) (sections : List Section) : List Section :=
  (sections.filter fun s => kept.sections s.name).map kept.within

def all : Selection where
  sections _ := true
  entries _ _ := true

def keeps (kept : Selection) (name key : String) : Bool :=
  kept.sections name && kept.entries name key

variable {kept : Selection}

theorem all_apply (sections : List Section) : all.apply sections = sections := by
  have every : (sections.filter fun s => all.sections s.name) = sections :=
    List.filter_eq_self.mpr fun _ _ => rfl
  have whole : ∀ s, all.within s = s := fun s =>
    congrArg (Section.mk s.name) (List.filter_eq_self.mpr fun _ _ => rfl)
  rw [apply, every, List.map_congr_left fun s _ => whole s, List.map_id']

theorem mem_apply {s : Section} (member : s ∈ kept.apply sections) :
    ∃ s' ∈ sections, s = kept.within s' := by
  obtain ⟨s', here, rfl⟩ := List.mem_map.mp member
  exact ⟨s', (List.mem_filter.mp here).1, rfl⟩

theorem unrepeated_apply (unrepeated : Unrepeated sections) : Unrepeated (kept.apply sections) where
  names := by
    rw [apply, List.map_map]
    exact unrepeated.names.sublist (List.filter_sublist.map _)
  keys := by
    intro s member
    obtain ⟨s', here, rfl⟩ := mem_apply member
    exact (unrepeated.keys s' here).sublist (List.filter_sublist.map _)

theorem writable_apply (writable : ∀ s ∈ sections, s.Writable) :
    ∀ s ∈ kept.apply sections, s.Writable := by
  intro s member
  obtain ⟨s', here, rfl⟩ := mem_apply member
  exact ⟨(writable s' here).name,
    fun entry left => (writable s' here).entries entry (List.mem_filter.mp left).1⟩

theorem lookup_tableOf_apply (sections : List Section) (name : String) :
    (tableOf (kept.apply sections)).lookup name =
      if kept.sections name then
        ((sections.map fun s => (s.name, s)).lookup name).map fun s =>
          .table .explicit (kept.within s).table
      else none := by
  have shape : tableOf (kept.apply sections) =
      ((sections.map fun s => (s.name, s)).filter fun named => kept.sections named.1).map
        fun named => (named.1, .table .explicit (kept.within named.2).table) := by
    rw [tableOf, apply, List.map_map, List.filter_map, List.map_map]
    rfl
  rw [shape, lookup_map fun s => Value.table .explicit (kept.within s).table, lookup_filter]
  split <;> rfl

theorem lookup_table_within (s : Section) (key : String) :
    (kept.within s).table.lookup key =
      if kept.entries s.name key then (s.entries.lookup key).map .scalar else none := by
  rw [Section.table, lookup_map Value.scalar, within, lookup_filter]
  split <;> rfl

end Selection

end Callout.Toml
