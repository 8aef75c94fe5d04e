import Callout.Session.Basic
import Mathlib.Data.List.Infix

namespace Callout

def IsUnmarked (text : String) : Prop :=
  ¬ objectMarker.toList <:+: text.toList

instance (text : String) : Decidable (IsUnmarked text) :=
  inferInstanceAs (Decidable (¬ _))

theorem removeFirst_of_absent {marker cs : List Char} (absent : ¬ marker <:+: cs) :
    removeFirst marker cs = cs := by
  induction cs with
  | nil => rfl
  | cons c cs ih =>
    have here : ¬ marker <+: c :: cs := fun present => absent present.isInfix
    have later : ¬ marker <:+: cs := fun present => absent (List.infix_cons present)
    unfold removeFirst
    rw [if_neg (by simpa using here), ih later]

/-- A marker that starts with a character it does not repeat cannot overlap itself, so an inserted
one is the first. -/
theorem removeFirst_inserted {first : Char} {others before after : List Char}
    (unlike : first ∉ others) (absent : ¬ first :: others <:+: before ++ after) :
    removeFirst (first :: others) (before ++ (first :: others ++ after)) = before ++ after := by
  induction before with
  | nil =>
    rw [List.nil_append, List.cons_append, removeFirst, if_pos (by simp)]
    simp
  | cons c before ih =>
    have later : ¬ first :: others <:+: before ++ after :=
      fun present => absent (List.infix_cons present)
    have here : ¬ first :: others <+: c :: (before ++ (first :: others ++ after)) := by
      intro present
      obtain ⟨rfl, rest⟩ := List.cons_prefix_cons.mp present
      have inserted : before ++ [first] <+: before ++ (first :: others ++ after) := by simp
      have fits : others <+: before ++ [first] ∨ before ++ [first] <+: others :=
        List.prefix_or_prefix_of_prefix rest inserted
      -- Either the occurrence ends before the inserted one, or it goes on past its start.
      rcases fits with short | long
      · rcases List.prefix_concat_iff.mp short with same | short
        · exact unlike (same ▸ by simp)
        · have old : first :: others <+: first :: before ++ after :=
            (List.prefix_cons_inj first).mpr (short.trans (List.prefix_append before after))
          exact absent old.isInfix
      · exact unlike (long.subset (by simp))
    rw [List.cons_append, removeFirst, if_neg (by simpa using here), ih later, List.cons_append]

theorem fragments_inserted {before after : String} (unmarked : IsUnmarked (before ++ after)) :
    fragments (before ++ objectMarker ++ after) = fragments (before ++ after) := by
  have shape : objectMarker.toList = '[' :: "object Object]".toList := by decide +kernel
  unfold IsUnmarked at unmarked
  have removed := removeFirst_of_absent unmarked
  rw [shape, String.toList_append] at unmarked
  have restored := removeFirst_inserted (by decide +kernel) unmarked
  unfold fragments
  rw [removed, String.toList_append, String.toList_append, List.append_assoc, shape, restored,
    String.toList_append]

namespace SemanticResult

/-- What may become of a field: it stays as it is, or the marker is put somewhere into its text. -/
inductive FieldMarked : Option Json → Option Json → Prop where
  | kept (value : Option Json) : FieldMarked value value
  | inserted {before after : String} (unmarked : IsUnmarked (before ++ after)) :
      FieldMarked (some (.string (before ++ after)))
        (some (.string (before ++ objectMarker ++ after)))

/-- The marker is put once into any of the fields of an order. -/
structure Marked (r s : SemanticResult) : Prop where
  subject : FieldMarked (r.get? subjectField) (s.get? subjectField)
  command : FieldMarked (r.get? commandField) (s.get? commandField)
  directObject : FieldMarked (r.get? directObjectField) (s.get? directObjectField)

variable {r s : SemanticResult} {field : String}

theorem FieldMarked.list?_eq (marked : FieldMarked (r.get? field) (s.get? field)) :
    s.list? field = r.list? field := by
  unfold list? text?
  generalize r.get? field = value, s.get? field = value' at marked
  cases marked with
  | kept => rfl
  | inserted unmarked => exact congrArg some (fragments_inserted unmarked)

theorem scalar?_eq_list? (r : SemanticResult) (field : String) :
    r.scalar? field = (r.list? field).bind List.head? := by
  rw [scalar?, list?, Option.bind_map]
  rfl

theorem FieldMarked.scalar?_eq (marked : FieldMarked (r.get? field) (s.get? field)) :
    s.scalar? field = r.scalar? field := by
  rw [scalar?_eq_list?, scalar?_eq_list?, marked.list?_eq]

/-- Wherever the marker is put into the fields of a result, the order is the same, so are its keys
with any registry and any pause, and any session does the same with it. -/
theorem order_of_marked (marked : r.Marked s) :
    s.order = r.order ∧
    (∀ (registry : Registry) (delay : Nat),
      registry.resolve s.order = registry.resolve r.order ∧
      registry.resolveResult s delay = registry.resolveResult r delay) ∧
    ∀ session : Session, session.dispatch s = session.dispatch r ∧
      session.process (.recognized s) = session.process (.recognized r) := by
  have order : s.order = r.order := by
    unfold SemanticResult.order
    rw [marked.subject.list?_eq, marked.command.scalar?_eq, marked.directObject.scalar?_eq]
  have keys (registry : Registry) (delay : Nat) :
      registry.resolveResult s delay = registry.resolveResult r delay := by
    rw [Registry.resolveResult, order, Registry.resolveResult]
  have dispatch (session : Session) : session.dispatch s = session.dispatch r := by
    rw [Session.dispatch, keys, Session.dispatch]
  refine ⟨order, fun registry delay => ⟨by rw [order], keys registry delay⟩, ?_⟩
  intro session
  refine ⟨dispatch session, ?_⟩
  simp only [Session.process, Session.read, Session.obey, marked.command.scalar?_eq, dispatch]

def overheard : SemanticResult :=
  ⟨[(commandField, .string "WATCH"),
    (subjectField, .string "\x7bONE[object \x7d \x7bObject]TWO\x7d")]⟩

def garbled : SemanticResult :=
  ⟨[(commandField, .string "WA[object Object]TCH"),
    (subjectField, .string "\x7bONE[object [object Object]\x7d \x7bObject]TWO\x7d")]⟩

theorem order_of_marked_garbled :
    overheard.Marked garbled ∧ garbled.order = overheard.order ∧
      overheard.order.command = some "WATCH" ∧
      overheard.order.subjects = some ["ONE[object", "Object]TWO"] := by
  have command : IsUnmarked ("WA" ++ "TCH") := by decide +kernel
  have subjects : IsUnmarked ("\x7bONE[object " ++ "\x7d \x7bObject]TWO\x7d") := by decide +kernel
  have marked : overheard.Marked garbled := by
    refine ⟨.inserted subjects, .inserted command, .kept none⟩
  exact ⟨marked, (order_of_marked marked).1, by decide +kernel, by decide +kernel⟩

end SemanticResult

end Callout
