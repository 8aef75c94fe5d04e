import Callout.Cli.Run

namespace Callout.Cli

def usageText : String :=
  String.join ([
    "Voice-driven squad commands",
    "",
    "Usage: articulate [--config FILE] [--backend NAME] TASK",
    "",
    "Tasks:",
    "  grammar   Print the recognition grammar as SRGS XML",
    "  listen    Dispatch utterances read line by line from stdin;",
    "            with --json, read semantic results instead",
    "  keys      Send the keys of one command:",
    "            keys COMMAND [DIRECT_OBJECT] [--subject TAG]... [--countdown SECONDS]",
    "  help      Print this text"].map (· ++ "\n"))

def fileState (path : String) : IO FileState := do
  try
    return .bytes (← IO.FS.readBinFile path).toList
  catch
    | .noFileOrDirectory _ _ _ => return .missing
    | .inappropriateType _ code _ =>
      -- 20 is the code for a path that goes through a file.
      return if code = 20 then .belowFile else .directory
    | _ => return .directory

partial def readAll (input : IO.FS.Stream) (before : ByteArray) : IO ByteArray := do
  let chunk ← input.read 8192
  if chunk.isEmpty then return before else readAll input (before ++ chunk)

def directoryOf (path : String) : String :=
  .ofList ((path.toList.reverse.dropWhile (· ≠ '/')).drop 1).reverse

def carryOut (effect : Effect) : IO Unit := do
  match effect with
  | .write path content =>
    let directory := directoryOf path
    unless directory.isEmpty do IO.FS.createDirAll directory
    IO.FS.writeBinFile path ⟨content.toArray⟩
  | .log line => IO.eprintln line.render
  | .print text =>
    let out ← IO.getStdout
    out.putStr text
    out.flush
  | .pause seconds =>
    for _ in [0:seconds] do IO.sleep 1000
  | .ydotool _ => pure ()

def invokeHere (i : Invocation) : IO UInt32 := do
  let home := Config.homeDirectory (← IO.getEnv "HOME") none
  let configHome ← IO.getEnv "XDG_CONFIG_HOME"
  let session : SessionVariables :=
    { sessionType := ← IO.getEnv "XDG_SESSION_TYPE"
      waylandDisplay := ← IO.getEnv "WAYLAND_DISPLAY"
      display := ← IO.getEnv "DISPLAY" }
  let file ← fileState (i.config.getD (Config.path home configHome))
  let stdin ← match i.task with
    | .listen _ => readAll (← IO.getStdin) ByteArray.empty
    | _ => pure ByteArray.empty
  let report := invoke
    { home, configHome, session, file := fun _ => file, stdin := stdin.toList
      tools := { found := false, daemon := false, run := .missing } } i
  for effect in report.effects do carryOut effect
  if let some message := report.error then IO.eprintln ("Error: " ++ message)
  return if report.error.isSome then 1 else 0

end Callout.Cli

open Callout.Cli in
def main (args : List String) : IO UInt32 := do
  match parse args with
  | .ok i => invokeHere i
  | .error .version =>
    IO.print versionText
    return 0
  | .error .help =>
    IO.print usageText
    return 0
  | .error .misuse =>
    IO.eprint usageText
    return 2
