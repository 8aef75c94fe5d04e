import Callout.Grammar.Interpret

namespace Callout

theorem lookup_cons_eq_ite {α : Type} (field name : String) (value : α)
    (members : List (String × α)) :
    ((name, value) :: members).lookup field =
      if field = name then some value else members.lookup field := by
  by_cases same : field = name
  · simp [same]
  · rw [List.lookup_cons, beq_eq_false_iff_ne.mpr same, if_neg same]

theorem Json.lookup_insertMember {α : Type} (name field : String) (value : α)
    (members : List (String × α)) :
    (insertMember name value members).lookup field =
      if field = name then some value else members.lookup field := by
  induction members with
  | nil => exact lookup_cons_eq_ite field name value []
  | cons member members ih =>
    obtain ⟨n, v⟩ := member
    unfold insertMember
    split
    · rw [lookup_cons_eq_ite]
    · split
      · rename_i same
        subst same
        simp only [lookup_cons_eq_ite]
        split <;> rfl
      · rename_i different
        simp only [lookup_cons_eq_ite, ih]
        by_cases here : field = n
        · have other : field ≠ name := fun same => different (same.symm.trans here)
          rw [if_pos here, if_neg other, if_pos here]
        · rw [if_neg here, if_neg here]

/-- What a field holds that some values are assigned to: one as it is, several in braces. -/
def spelled? : List String → Option Json
  | [] => none
  | [value] => some (.string value)
  | values => some (.string (" ".intercalate (values.map fun value => "\x7b" ++ value ++ "\x7d")))

theorem spelled?_eq (values : List String) :
    spelled? values = if values = [] then none else some (.string (fieldText values)) := by
  match values with
  | [] => rfl
  | [value] => rfl
  | first :: second :: more => rfl

namespace SemanticResult

theorem get?_insert (r : SemanticResult) (name field : String) (value : Json) :
    (r.insert name value).get? field = if field = name then some value else r.get? field :=
  Json.lookup_insertMember name field value r.fields

theorem get?_ofList_map (value : String → Json) (names : List String) (field : String) :
    (ofList (names.map fun name => (name, value name))).get? field =
      if field ∈ names then some (value field) else none := by
  suffices general : ∀ r : SemanticResult,
      ((names.map fun name => (name, value name)).foldl
        (fun r f => r.insert f.1 f.2) r).get? field =
        if field ∈ names then some (value field) else r.get? field from general empty
  induction names with
  | nil => simp
  | cons name names ih =>
    intro r
    rw [List.map_cons, List.foldl_cons, ih, get?_insert]
    by_cases later : field ∈ names
    · simp [later]
    · by_cases here : field = name <;> simp [later, here]

theorem get?_ofAssignments (a : List (String × String)) (field : String) :
    (ofAssignments a).get? field =
      if valuesOf field a = [] then none else some (.string (fieldText (valuesOf field a))) := by
  have written : field ∈ a.map (·.1) ↔ valuesOf field a ≠ [] := by
    simp [valuesOf, List.filter_eq_nil_iff]
  rw [ofAssignments, get?_ofList_map (fun field => .string (fieldText (valuesOf field a)))]
  simp only [List.mem_eraseDups, written]
  by_cases empty : valuesOf field a = [] <;> simp [empty]

end SemanticResult

end Callout
