import Callout.Config.Document
import Callout.Text.Utf8

namespace Callout

inductive FileState where
  | missing
  | bytes (content : List UInt8)
  | directory
  -- Nothing, below a file that is no directory.
  | belowFile
  deriving DecidableEq, Repr

inductive ConfigError where
  | unreadable (path : String)
  | invalid (path : String)
  | unwritable (path : String)
  | noDirectory
  | unrepresentable
  deriving DecidableEq, Repr

def ConfigError.message : ConfigError → String
  | unreadable path => "Failed to read " ++ path
  | invalid path => "Invalid configuration in " ++ path
  | unwritable path => "Failed to write " ++ path
  | noDirectory => "File exists (os error 17)"
  | unrepresentable => "out-of-range value for u64 type"

def FileState.ofText (text : String) : FileState :=
  .bytes text.toUTF8.toList

namespace Config

/-- Steps with the file of the settings. When one fails, what the steps before it did stays. -/
abbrev FileM := EStateM ConfigError FileState

def makeDirectory : FileM Unit := do
  if (← get) = .belowFile then throw .noDirectory

def writeText (path text : String) : FileM Unit := do
  match ← get with
  | .missing | .bytes _ => set (FileState.ofText text)
  | .directory | .belowFile => throw (.unwritable path)

def save (path : String) (c : Config) : FileM Unit := do
  makeDirectory
  match c.write? with
  | none => throw .unrepresentable
  | some text => writeText path text

/-- The settings in the file. If there is none, the defaults are saved to it. -/
def load (path : String) : FileM Config := do
  match ← get with
  | .bytes content =>
    match Text.decode content with
    | .error _ => throw (.unreadable path)
    | .ok text =>
      match parse? text with
      | none => throw (.invalid path)
      | some c => return c
  | .directory => throw (.unreadable path)
  | .missing | .belowFile =>
    save path {}
    return {}

def joinPath (directory name : String) : String :=
  if directory.isEmpty || directory.endsWith "/" then directory ++ name
  else directory ++ "/" ++ name

def homeDirectory (home account : Option String) : Option String :=
  (home.filter (!·.isEmpty)).or account

/-- Where the file is unless another one is named: below `XDG_CONFIG_HOME` if that is an absolute
path, else below `.config` in the home directory, else below the working directory. -/
def path (home configHome : Option String) : String :=
  let directory :=
    (configHome.filter (·.startsWith "/")).or (home.map (joinPath · ".config"))
  joinPath (joinPath (directory.getD ".") "articulate") "config.toml"

end Config

end Callout
