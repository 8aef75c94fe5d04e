import Callout.Injector.Recording
import Callout.Injector.Ydotool
import Callout.Log
import Callout.Text.Lowercase

namespace Callout

inductive DisplayServer where
  | x11
  | wayland
  | unknown
  deriving DecidableEq, Repr

def DisplayServer.name : DisplayServer → String
  | x11 => "X11"
  | wayland => "Wayland"
  | unknown => "Unknown"

structure SessionVariables where
  sessionType : Option String := none
  waylandDisplay : Option String := none
  display : Option String := none
  deriving DecidableEq, Repr

/-- The type of the session decides if it names a server, then a Wayland display, then an X one. -/
def SessionVariables.displayServer (v : SessionVariables) : DisplayServer :=
  match v.sessionType.map Text.lowercase with
  | some "x11" => .x11
  | some "wayland" => .wayland
  | _ =>
    if v.waylandDisplay.isSome then .wayland
    else if v.display.isSome then .x11
    else .unknown

inductive Backend where
  | stub
  | ydotool (tools : Tools)
  deriving DecidableEq, Repr

namespace Backend

def injector : Backend → Injector
  | stub => .stub
  | ydotool tools => Ydotool.injector tools

def runs (calls : List Call) : Backend → List String
  | stub => []
  | ydotool tools => Ydotool.runs tools calls

def preferred (preference : String) (v : SessionVariables) : Except String (Option DisplayServer) :=
  match Text.lowercase preference with
  | "stub" => .ok none
  | "x11" => .ok (some .x11)
  | "wayland" => .ok (some .wayland)
  | "auto" => .ok (some v.displayServer)
  | other => .error ("Unknown input backend: " ++ other)

def startYdotool (tools : Tools) : Backend × List LogLine :=
  (.ydotool tools, (Ydotool.warnings tools).map (.warn .input))

/-- The backend for a preference with what is logged on the way. X11 is not supported. -/
def select (preference : String) (v : SessionVariables) (tools : Tools) :
    List LogLine × Except String Backend :=
  match preferred preference v with
  | .error message => ([], .error message)
  | .ok none => ([.info .input "Using stub input injector"], .ok .stub)
  | .ok (some server) =>
    let detected := LogLine.info .input ("Display server: " ++ server.name)
    let (backend, warnings) := startYdotool tools
    match server with
    | .x11 => ([detected], .error "X11 support not compiled in")
    | .wayland => (detected :: .info .input "Using Wayland input injector" :: warnings, .ok backend)
    | .unknown =>
      (detected :: .warn .input "Unknown display server, trying X11 first..."
        :: .info .input "Using Wayland input injector (no X11 support)" :: warnings, .ok backend)

end Backend

end Callout
