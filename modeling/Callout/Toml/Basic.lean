namespace Callout.Toml

inductive Scalar where
  | string (s : String)
  | integer (n : Int)
  | float (text : String)
  | boolean (b : Bool)
  | datetime (text : String)
  deriving DecidableEq, Repr

/-- How a table has come about, which decides what may still be added to it. -/
inductive Origin where
  | explicit
  | braced
  | implicit
  | dotted
  deriving DecidableEq, Repr

inductive Value where
  | scalar (s : Scalar)
  | array (items : List Value)
  | table (origin : Origin) (entries : List (String × Value))
  -- An array of tables with a header for each; keys are still added to the last one.
  | tables (earlier : List (List (String × Value))) (last : List (String × Value))

abbrev Table := List (String × Value)

abbrev Path := List String

inductive Statement where
  | header (path : Path)
  | element (path : Path)
  | assign (path : Path) (value : Value)

end Callout.Toml
