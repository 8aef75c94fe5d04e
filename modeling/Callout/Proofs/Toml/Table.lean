import Callout.Proofs.Lookup
import Callout.Toml.Printer
import Callout.Toml.Table

namespace Callout.Toml

def Section.table (s : Section) : Table :=
  s.entries.map fun entry => (entry.1, .scalar entry.2)

def Section.statements (s : Section) : List Statement :=
  .header [s.name] :: s.entries.map fun entry => .assign [entry.1] (.scalar entry.2)

def tableOf (sections : List Section) : Table :=
  sections.map fun s => (s.name, .table .explicit s.table)

structure Unrepeated (sections : List Section) : Prop where
  names : (sections.map (·.name)).Nodup
  keys : ∀ s ∈ sections, (s.entries.map (·.1)).Nodup

variable {t root inner : Table} {key name : String} {v w : Value} {current : Path}

namespace Table

theorem set_of_fresh (fresh : key ∉ t.map (·.1)) : set key v t = t ++ [(key, v)] := by
  induction t with
  | nil => rfl
  | cons entry t ih =>
    rw [List.map_cons, List.mem_cons, not_or] at fresh
    rw [set, if_neg (Ne.symm fresh.1), ih fresh.2]
    rfl

theorem set_last (fresh : key ∉ t.map (·.1)) : set key w (t ++ [(key, v)]) = t ++ [(key, w)] := by
  induction t with
  | nil => exact if_pos rfl
  | cons entry t ih =>
    rw [List.map_cons, List.mem_cons, not_or] at fresh
    rw [List.cons_append, set, if_neg (Ne.symm fresh.1), ih fresh.2]
    rfl

theorem lookup_last (fresh : key ∉ t.map (·.1)) :
    (t ++ [(key, v)]).lookup key = some v := by
  rw [List.lookup_append, lookup_of_not_mem fresh, List.lookup_cons_self]
  rfl

end Table

namespace Draft

theorem step?_header (fresh : name ∉ root.map (·.1)) :
    step? ⟨current, root⟩ (.header [name]) =
      some ⟨[name], root ++ [(name, .table .explicit [])]⟩ := by
  have defined : root.define? name = some (root ++ [(name, .table .explicit [])]) := by
    rw [Table.define?, lookup_of_not_mem fresh, ← Table.set_of_fresh fresh]
  have modified : root.modifyLast? Table.define? [name] = root.define? name := rfl
  rw [step?, modified, defined]
  rfl

theorem step?_assign (freshName : name ∉ root.map (·.1)) (fresh : key ∉ inner.map (·.1)) :
    step? ⟨[name], root ++ [(name, .table .explicit inner)]⟩ (.assign [key] v) =
      some ⟨[name], root ++ [(name, .table .explicit (inner ++ [(key, v)]))]⟩ := by
  have assigned : inner.assign? v [key] = some (inner ++ [(key, v)]) := by
    rw [Table.assign?, Table.add?, lookup_of_not_mem fresh, Table.set_of_fresh fresh]
    rfl
  have modified : Table.modify? (Table.assign? v [key]) [name]
      (root ++ [(name, .table .explicit inner)]) =
      some (root ++ [(name, .table .explicit (inner ++ [(key, v)]))]) := by
    have reached : Table.modify? (Table.assign? v [key]) [] inner = some (inner ++ [(key, v)]) :=
      assigned
    rw [Table.modify?, Table.lookup_last freshName]
    simp only [reached, if_neg (nofun : Origin.explicit ≠ .braced)]
    exact congrArg some (Table.set_last freshName)
  rw [step?, modified]
  rfl

theorem foldlM_entries {entries : List (String × Scalar)} (freshName : name ∉ root.map (·.1))
    (nodup : (inner.map (·.1) ++ entries.map (·.1)).Nodup) :
    (entries.map fun entry => .assign [entry.1] (.scalar entry.2)).foldlM step?
        ⟨[name], root ++ [(name, .table .explicit inner)]⟩ =
      some ⟨[name], root ++ [(name, .table .explicit
        (inner ++ entries.map fun entry => (entry.1, .scalar entry.2)))]⟩ := by
  induction entries generalizing inner with
  | nil =>
    rw [List.map_nil, List.map_nil, List.append_nil]
    rfl
  | cons entry entries ih =>
    have fresh : entry.1 ∉ inner.map (·.1) := by
      intro member
      exact (List.nodup_append.mp nodup).2.2 _ member _ List.mem_cons_self rfl
    have nodup' : ((inner ++ [(entry.1, Value.scalar entry.2)]).map (·.1) ++
        entries.map (·.1)).Nodup := by
      simpa using nodup
    rw [List.map_cons, List.foldlM_cons, step?_assign freshName fresh]
    show List.foldlM step? _ _ = _
    rw [ih nodup', List.append_assoc]
    rfl

theorem foldlM_section {s : Section} (fresh : s.name ∉ root.map (·.1))
    (nodup : (s.entries.map (·.1)).Nodup) :
    s.statements.foldlM step? ⟨current, root⟩ =
      some ⟨[s.name], root ++ [(s.name, .table .explicit s.table)]⟩ := by
  have entries := @foldlM_entries root [] s.name s.entries fresh nodup
  rw [Section.statements, List.foldlM_cons, step?_header fresh]
  exact entries

end Draft

theorem ofStatements?_sections {sections : List Section} (unrepeated : Unrepeated sections) :
    Table.ofStatements? (sections.flatMap Section.statements) = some (tableOf sections) := by
  -- By induction on the sections still to come. A header does not care about the one before it.
  suffices built : ∀ root current, (root.map (·.1) ++ sections.map (·.name)).Nodup →
      ∃ current', (sections.flatMap Section.statements).foldlM Draft.step? ⟨current, root⟩ =
        some ⟨current', root ++ tableOf sections⟩ by
    obtain ⟨current', read⟩ := built [] [] unrepeated.names
    unfold Table.ofStatements?
    rw [read]
    rfl
  obtain ⟨-, keys⟩ := unrepeated
  induction sections with
  | nil =>
    intro root current _
    refine ⟨current, ?_⟩
    rw [tableOf, List.map_nil, List.append_nil]
    rfl
  | cons s sections ih =>
    intro root current nodup
    obtain ⟨first, others⟩ := List.forall_mem_cons.mp keys
    have fresh : s.name ∉ root.map (·.1) := by
      intro member
      exact (List.nodup_append.mp nodup).2.2 _ member _ List.mem_cons_self rfl
    have nodup' : ((root ++ [(s.name, Value.table .explicit s.table)]).map (·.1) ++
        sections.map (·.name)).Nodup := by
      simpa using nodup
    obtain ⟨current', read⟩ := ih others _ [s.name] nodup'
    refine ⟨current', ?_⟩
    rw [List.flatMap_cons, List.foldlM_append, Draft.foldlM_section fresh first]
    show List.foldlM Draft.step? _ _ = _
    rw [read, List.append_assoc]
    rfl

end Callout.Toml
