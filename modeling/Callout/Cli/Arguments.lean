import Callout.Text.Digits

namespace Callout.Cli

inductive Switch where
  | config
  | backend
  | json
  | subject
  | countdown
  | help
  | version
  deriving DecidableEq, Repr

namespace Switch

def long : Switch → String
  | config => "config"
  | backend => "backend"
  | json => "json"
  | subject => "subject"
  | countdown => "countdown"
  | help => "help"
  | version => "version"

def short? : Switch → Option Char
  | subject => some 's'
  | help => some 'h'
  | version => some 'V'
  | config | backend | json | countdown => none

def takesValue : Switch → Bool
  | config | backend | subject | countdown => true
  | json | help | version => false

end Switch

/-- What may follow the program or a task. -/
structure Level where
  switches : List Switch
  words : Nat := 0
  tasks : List String := []

namespace Level

def program : Level where
  switches := [.config, .backend, .help, .version]
  tasks := ["grammar", "listen", "keys", "help"]

def grammar : Level where
  switches := [.config, .backend, .help]

def listen : Level where
  switches := [.config, .backend, .json, .help]

def keys : Level where
  switches := [.config, .backend, .subject, .countdown, .help]
  words := 2

def long? (l : Level) (name : String) : Option Switch :=
  l.switches.find? (·.long = name)

def short? (l : Level) (c : Char) : Option Switch :=
  l.switches.find? (·.short? = some c)

end Level

inductive Argument where
  | word (text : String)
  | long (name : String) (value : Option String)
  | short (letters : List Char)
  | endOfSwitches
  deriving DecidableEq, Repr

def Argument.ofLong (cs : List Char) : Argument :=
  match cs.span (· ≠ '=') with
  | (name, _ :: value) => .long (.ofList name) (some (.ofList value))
  | (name, []) => .long (.ofList name) none

def Argument.ofString (s : String) : Argument :=
  match s.toList with
  | ['-', '-'] => .endOfSwitches
  | '-' :: '-' :: cs => .ofLong cs
  | '-' :: c :: cs => .short (c :: cs)
  | _ => .word s

inductive Token where
  | flag (s : Switch)
  | value (s : Switch) (text : String)
  | word (text : String)
  | task (name : String) (rest : List String)
  | unreadable
  deriving DecidableEq, Repr

def attached : List Char → List Char
  | '=' :: cs => cs
  | cs => cs

def letterTokens (l : Level) : List Char → List Token × Option Switch
  | [] => ([], none)
  | c :: cs =>
    match l.short? c with
    | none => ([.unreadable], none)
    | some s =>
      if !s.takesValue then
        let (tokens, awaiting) := letterTokens l cs
        (.flag s :: tokens, awaiting)
      else if cs.isEmpty then ([], some s)
      else ([.value s (.ofList (attached cs))], none)

def tokens (l : Level) (awaiting : Option Switch) : List String → List Token
  | [] => if awaiting.isSome then [.unreadable] else []
  | arg :: rest =>
    match awaiting, Argument.ofString arg with
    | some s, .word text => .value s text :: tokens l none rest
    | some _, _ => [.unreadable]
    | none, .word text =>
      if text ∈ l.tasks then [.task text rest] else .word text :: tokens l none rest
    | none, .endOfSwitches => rest.map .word
    | none, .short letters =>
      let (ts, awaiting) := letterTokens l letters
      ts ++ tokens l awaiting rest
    | none, .long name value =>
      match l.long? name, value with
      | none, _ => [.unreadable]
      | some s, some text =>
        if s.takesValue then .value s text :: tokens l none rest else [.unreadable]
      | some s, none =>
        if s.takesValue then tokens l (some s) rest else .flag s :: tokens l none rest

inductive Stop where
  | help
  | version
  | misuse
  deriving DecidableEq, Repr

structure Given where
  config : Option String := none
  backend : Option String := none
  json : Bool := false
  subjects : List String := []
  countdown : Option Nat := none
  words : List String := []
  task : Option (String × List String) := none
  deriving DecidableEq, Repr

def number? (s : String) : Option Nat :=
  let ds := match s.toList with
    | '+' :: ds => ds
    | ds => ds
  let n := Text.ofDigits 10 ds
  if !ds.isEmpty && ds.all Text.isDigit && n ≤ 0xFFFFFFFFFFFFFFFF then some n else none

-- Only subjects may be given more than once, and a file needs a name.
def Given.addValue (g : Given) (text : String) : Switch → Except Stop Given
  | .config =>
    if g.config.isSome || text.isEmpty then throw .misuse else return { g with config := some text }
  | .backend => if g.backend.isSome then throw .misuse else return { g with backend := some text }
  | .subject => return { g with subjects := g.subjects ++ [text] }
  | .countdown =>
    match g.countdown, number? text with
    | none, some n => return { g with countdown := some n }
    | _, _ => throw .misuse
  | .json | .help | .version => throw .misuse

def Given.add (l : Level) (g : Given) : Token → Except Stop Given
  | .flag .help => throw .help
  | .flag .version => throw .version
  | .flag .json => if g.json then throw .misuse else return { g with json := true }
  | .flag _ => throw .misuse
  | .value s text => g.addValue text s
  | .word text =>
    if g.words.length < l.words then return { g with words := g.words ++ [text] } else throw .misuse
  | .task name rest => return { g with task := some (name, rest) }
  | .unreadable => throw .misuse

def given (l : Level) (args : List String) : Except Stop Given :=
  (tokens l none args).foldlM (Given.add l) {}

structure KeyRequest where
  command : String
  directObject : Option String := none
  subjects : List String := []
  countdown : Nat := 3
  deriving DecidableEq, Repr

inductive Task where
  | grammar
  | listen (json : Bool)
  | keys (request : KeyRequest)
  deriving DecidableEq, Repr

structure Invocation where
  config : Option String := none
  backend : Option String := none
  task : Task
  deriving DecidableEq, Repr

def helpOn : List String → Stop
  | [] => .help
  | [name] => if name ∈ Level.program.tasks then .help else .misuse
  | _ => .misuse

def taskOf (name : String) (args : List String) : Except Stop (Given × Task) := do
  match name with
  | "grammar" => return (← given .grammar args, .grammar)
  | "listen" =>
    let g ← given .listen args
    return (g, .listen g.json)
  | "keys" =>
    let g ← given .keys args
    match g.words with
    | [] => throw .misuse
    | command :: others =>
      return (g, .keys
        { command, directObject := others.head?, subjects := g.subjects,
          countdown := g.countdown.getD 3 })
  | _ => throw (helpOn args)

/-- Switches after the task win over the same ones before it. -/
def parse (args : List String) : Except Stop Invocation := do
  let outer ← given .program args
  match outer.task with
  | none => throw .misuse
  | some (name, rest) =>
    let (inner, task) ← taskOf name rest
    return {
      config := inner.config.or outer.config, backend := inner.backend.or outer.backend, task }

end Callout.Cli
