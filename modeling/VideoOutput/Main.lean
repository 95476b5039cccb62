import VideoOutput.CommandLine
import VideoOutput.Config.Layers

/-!
# The program

Reads the environment and the configuration files and runs the command line. No compositor can be
reached from here, so a client that is needed fails to connect.
-/

namespace VideoOutput

namespace Program

/-- The bytes of a file, if it can be read. -/
def readFile? (path : String) : IO (Option (List UInt8)) := do
  match ← (IO.FS.readBinFile path).toBaseIO with
  | .ok bytes => return some bytes.toList
  | .error _ => return none

/-- The file below a directory, if there is one. -/
def readBelow? (directory : Option String) (place : String) : IO (Option (List UInt8)) :=
  directory.elim (pure none) fun directory => readFile? s!"{directory}/{place}"

/-- The configuration files that the environment leads to. -/
def configFiles : IO ConfigFiles := do
  let place := "dmabuf-wayland/config.toml"
  let userConfig ← IO.getEnv "XDG_CONFIG_HOME"
  let home ← IO.getEnv "HOME"
  let named ← IO.getEnv "DMABUF_WAYLAND_CONFIG"
  return {
    system := ← readBelow? (some "/etc") place
    userConfig := ← readBelow? userConfig place
    userConfigIsNamed := userConfig.isSome
    home := ← readBelow? home s!".config/{place}"
    homeIsNamed := home.isSome
    working := ← readFile? "dmabuf_wayland.toml"
    named := ← named.elim (pure none) readFile? }

/-- Nobody is at the other end of a link. -/
def nobody : Peer Unit := ⟨fun _ _ => ([], ())⟩

/-- Why no compositor is reached. -/
def connectError : IO ConnectError := do
  match ← IO.getEnv "WAYLAND_SOCKET" with
  | some text => return if text.toInt?.isNone then .garbledSocket else .unreachable
  | none => return .unreachable

def run (arguments : List String) : IO UInt32 := do
  let settings := Settings.load (← configFiles)
  let opened : Except ExchangeError (Exchange Unit) := .error (.connect (← connectError))
  let result := CommandLine.run nobody 1 arguments settings opened
  IO.print result.stdout
  IO.eprint result.stderr
  return UInt32.ofNat result.code

end Program

end VideoOutput

def main (arguments : List String) : IO UInt32 := VideoOutput.Program.run arguments
