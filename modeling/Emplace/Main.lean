import Emplace.Daemon.Command
import Emplace.Daemon.Startup

namespace Emplace.CommandLine

def systemErrorOf : IO.Error → SystemError
  | .noFileOrDirectory .. => .noSuchFile
  | .permissionDenied .. => .permissionDenied
  | .inappropriateType .. => .isADirectory
  | e => .described (toString e)

def readHostFile (path : String) : IO (Except SystemError Bytes) := do
  try
    return .ok (← IO.FS.readBinFile path).toList
  catch e => return .error (systemErrorOf e)

def hostWith (name : String) (files : List (String × Except SystemError Bytes)) : Daemon.Host where
  name := name
  read path := (files.lookup path).getD (.error .noSuchFile)
  bind _ := .ok ()

def runDevice (path : Option String) (port : Option UInt16) : IO UInt32 := do
  let name := (← IO.getEnv "HOSTNAME").getD ""
  let configs ← path.toList.mapM fun p => return (p, ← readHostFile p)
  let keyFile := match Daemon.load (hostWith name configs) path port with
    | .ok settings => settings.dispatch.keyFile
    | .error _ => none
  let keys ← keyFile.toList.mapM fun p => return (p, ← readHostFile p)
  match Daemon.start (hostWith name (configs ++ keys)) path port with
  | .ok _ => return 0
  | .error e =>
    IO.eprint (Daemon.report e.texts)
    return 1

def run (args : List String) : IO UInt32 := do
  match Daemon.Command.ofArguments? args with
  | some .defaultConfig =>
    IO.print Settings.standard.toToml
    return 0
  | some (.run path port) => runDevice path port
  | none =>
    IO.eprintln "usage: [--log-json] run [--config PATH] [--port PORT] | default-config"
    return 2

end Emplace.CommandLine

def main (args : List String) : IO UInt32 := Emplace.CommandLine.run args
