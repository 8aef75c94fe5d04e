import Callout.Toml.Basic

namespace Callout.Toml

def Table.set (key : String) (v : Value) : Table → Table
  | [] => [(key, v)]
  | (k, w) :: t => if k = key then (key, v) :: t else (k, w) :: Table.set key v t

def Table.add? (key : String) (v : Value) (t : Table) : Option Table :=
  if (t.lookup key).isSome then none else some (t.set key v)

/-- Gives a value to a dotted key. The path may make tables and go on into those of other dotted
keys. It may pass through other tables without a header or in an array, but not end in them. -/
def Table.assign? (v : Value) : Path → Table → Option Table
  | [], _ => none
  | [key], t => t.add? key v
  | key :: next :: path, t =>
    match t.lookup key with
    | none => do
      return t.set key (.table .dotted (← Table.assign? v (next :: path) []))
    | some (.table .dotted inner) => do
      return t.set key (.table .dotted (← Table.assign? v (next :: path) inner))
    | some (.table .implicit inner) => do
      if path.isEmpty then none
      return t.set key (.table .implicit (← Table.assign? v (next :: path) inner))
    | some (.tables earlier last) => do
      if path.isEmpty then none
      return t.set key (.tables earlier (← Table.assign? v (next :: path) last))
    | some _ => none

/-- Changes the table at a path, which is made if there is none. In an array of tables the path
leads to the last one. -/
def Table.modify? (f : Table → Option Table) : Path → Table → Option Table
  | [], t => f t
  | key :: path, t =>
    match t.lookup key with
    | none => do return t.set key (.table .implicit (← Table.modify? f path []))
    | some (.table origin inner) => do
      if origin = .braced then none
      return t.set key (.table origin (← Table.modify? f path inner))
    | some (.tables earlier last) => do
      return t.set key (.tables earlier (← Table.modify? f path last))
    | some _ => none

def Table.define? (key : String) (t : Table) : Option Table :=
  match t.lookup key with
  | none => some (t.set key (.table .explicit []))
  | some (.table .implicit inner) => some (t.set key (.table .explicit inner))
  | some _ => none

def Table.append? (key : String) (t : Table) : Option Table :=
  match t.lookup key with
  | none => some (t.set key (.tables [] []))
  | some (.tables earlier last) => some (t.set key (.tables (earlier ++ [last]) []))
  | some _ => none

structure Draft where
  current : Path := []
  root : Table := []

def Table.modifyLast? (f : String → Table → Option Table) (path : Path) (t : Table) :
    Option Table := do
  t.modify? (f (← path.getLast?)) path.dropLast

def Draft.step? (d : Draft) : Statement → Option Draft
  | .header path => do
    return { current := path, root := ← d.root.modifyLast? Table.define? path }
  | .element path => do
    return { current := path, root := ← d.root.modifyLast? Table.append? path }
  | .assign path v => do
    return { d with root := ← d.root.modify? (Table.assign? v path) d.current }

def Table.ofStatements? (statements : List Statement) : Option Table := do
  return (← statements.foldlM Draft.step? {}).root

def Table.ofEntries? (entries : List (Path × Value)) : Option Table :=
  entries.foldlM (fun t (path, v) => t.assign? v path) []

end Callout.Toml
