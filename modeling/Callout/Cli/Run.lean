import Callout.Catalog
import Callout.Cli.Arguments
import Callout.Cli.Listen
import Callout.Config.File
import Callout.Grammar.Srgs
import Callout.Injector.Selection

namespace Callout.Cli

/-- What a run finds. -/
structure Surroundings where
  home : Option String := none
  configHome : Option String := none
  session : SessionVariables := {}
  tools : Tools := {}
  file : String → FileState
  stdin : List UInt8 := []

inductive Effect where
  | write (path : String) (content : List UInt8)
  | log (line : LogLine)
  | print (text : String)
  | pause (seconds : Nat)
  | ydotool (arguments : String)
  deriving DecidableEq, Repr

/-- What a run does, one thing after the other, and what it fails with. -/
structure Report where
  effects : List Effect := []
  error : Option String := none
  deriving DecidableEq, Repr

namespace Report

def failed (message : String) : Report where
  error := some message

def after (effects : List Effect) (r : Report) : Report :=
  { r with effects := effects ++ r.effects }

def exitCode (r : Report) : Nat :=
  if r.error.isSome then 1 else 0

def output (r : Report) : String :=
  String.join (r.effects.filterMap fun
    | .print text => some text
    | _ => none)

def log (r : Report) : List LogLine :=
  r.effects.filterMap fun
    | .log line => some line
    | _ => none

def toolRuns (r : Report) : List String :=
  r.effects.filterMap fun
    | .ydotool arguments => some arguments
    | _ => none

def written? (r : Report) (path : String) : Option (List UInt8) :=
  r.effects.findSome? fun
    | .write p content => if p = path then some content else none
    | _ => none

end Report

def note (message : String) : Effect :=
  .log (.info .application message)

structure Setup where
  config : Config
  grammar : Grammar
  registry : Registry

def Setup.session (s : Setup) (backend : Backend) : Session where
  grammar := s.grammar
  registry := s.registry
  delay := s.config.input.keyPressDelay
  emulator := { injector := backend.injector }
  state := { listening := s.config.recognition.startListening }

def workerEffects (backend : Backend) (e : Emulator) : List Effect :=
  e.attempts.flatMap fun a =>
    (backend.runs [a.call]).map .ydotool
      ++ (e.injector.report? a.toAttempt).toList.map .log

def withBackend (s : Setup) (around : Surroundings) (task : Backend → Report) : Report :=
  match Backend.select s.config.input.preferBackend around.session around.tools with
  | (lines, .error message) => (Report.failed message).after (lines.map .log)
  | (lines, .ok backend) =>
    (task backend).after
      (lines.map .log ++ [note ("Input injector: " ++ backend.injector.name)])

def listen (s : Setup) (around : Surroundings) (json : Bool) : Report :=
  withBackend s around fun backend =>
    let kind := if json then "semantic results" else "utterances"
    let ready := note ("Ready. Reading " ++ kind ++ " from stdin (/listen, /mute to toggle)")
    let start : Listener := { session := s.session backend }
    let (l, fault) := start.hearAll json (linesOf around.stdin)
    Report.after (ready :: l.log.map .log) <|
      match fault with
      | some e => .failed e.message
      | none =>
        { effects :=
            workerEffects backend l.finish.session.emulator ++ [note "Articulate stopped"] }

def KeyRequest.result (k : KeyRequest) : SemanticResult :=
  let subjects := if k.subjects.isEmpty then none else some (" ".intercalate k.subjects)
  .ofList ([(commandField, some k.command), (directObjectField, k.directObject),
    (subjectField, subjects)].filterMap fun (field, text) => text.map fun t => (field, .string t))

def sendKeys (s : Setup) (around : Surroundings) (k : KeyRequest) : Report :=
  if !s.registry.contains k.command then .failed ("Unknown command '" ++ k.command ++ "'")
  else withBackend s around fun backend =>
    let session := s.session backend
    let operations := s.registry.resolveResult k.result session.delay
    let (emulator, outcome) := session.emulator.send operations
    Report.after
      ([.print ("Resolved " ++ toString operations.length ++ " key operations for " ++ k.command
          ++ "\n"),
        .print ("You have " ++ toString k.countdown ++ " seconds to focus the game window...\n"),
        .pause k.countdown]
        ++ k.result.order.dispatchLine?.toList.map .log
        ++ workerEffects backend emulator) <|
      match outcome with
      | .ok () => { effects := [.print "Done!\n"] }
      | .error e => .failed e.message

def perform (s : Setup) (around : Surroundings) : Task → Report
  | .grammar => { effects := [.print s.grammar.srgs] }
  | .listen json => listen s around json
  | .keys request => sendKeys s around request

def setup (config : Config) : Except Error Setup := do
  let (grammar, registry) ← Catalog.assemble config.grammar.culture config.grammar.maxSubjects
  return { config, grammar, registry }

def Invocation.configPath (i : Invocation) (around : Surroundings) : String :=
  i.config.getD (Config.path around.home around.configHome)

def Invocation.override (i : Invocation) (config : Config) : Config :=
  let backend := i.backend.getD config.input.preferBackend
  { config with input := { config.input with preferBackend := backend } }

def changes (path : String) (before after : FileState) : List Effect :=
  match after with
  | .bytes content => if after = before then [] else [.write path content]
  | _ => []

/-- Reads the settings, puts the grammar together and does what is asked for. -/
def invoke (around : Surroundings) (i : Invocation) : Report :=
  let path := i.configPath around
  let file := around.file path
  match (Config.load path).run file with
  | .error e after => (Report.failed e.message).after (changes path file after)
  | .ok config after =>
    Report.after (changes path file after ++ [note "Configuration loaded"]) <|
      match setup (i.override config) with
      | .error _ => .failed "Failed to assemble command grammar"
      | .ok s =>
        let assembled := note ("Grammar assembled: " ++ toString s.grammar.rules.length
          ++ " rules, " ++ toString s.registry.size ++ " commands (" ++ s.grammar.culture ++ ")")
        (perform s around i.task).after [assembled]

inductive Ending where
  | ran (report : Report)
  | stopped (stop : Stop)
  deriving DecidableEq, Repr

def Ending.exitCode : Ending → Nat
  | ran report => report.exitCode
  | stopped .misuse => 2
  | stopped .help | stopped .version => 0

def versionText : String := "articulate 0.1.0\n"

def run (around : Surroundings) (args : List String) : Ending :=
  match parse args with
  | .error stop => .stopped stop
  | .ok i => .ran (invoke around i)

end Callout.Cli
