import Emplace.Program.Host
import Emplace.Program.Launcher.Environment
import Emplace.Program.Launcher.Repeated
import Emplace.Program.Launcher.Timeout

namespace Emplace.Program

inductive Executable
  | shell
  | launcher (run : Launcher)
  | utility (name : String) (run : Utility)
  | unknown

def searched : List String := ["/usr/local/sbin", "/usr/local/bin", "/usr/sbin", "/usr/bin", "/sbin", "/bin"]

def launchers : List (String × Launcher) :=
  [("env", Launcher.env), ("nice", Launcher.nice), ("nohup", Launcher.nohup), ("setsid", Launcher.setsid),
    ("stdbuf", Launcher.stdbuf), ("timeout", Launcher.timeout), ("xargs", Launcher.xargs)]

def executableOf (name : String) : Executable :=
  if name = "dash" then .shell
  else
    match launchers.lookup name, utilities.lookup name with
    | some run, _ => .launcher run
    | none, some run => .utility name run
    | none, none => .unknown

def executableAt (disk : Files.Disk) (path : String) : Except SystemError Executable :=
  match disk.find (Raw.toText path) with
  | .error e => .error e
  | .ok (place, .file _) =>
    match Text.stripStart? programFolder place with
    | some [name] => .ok (executableOf name)
    | _ => .error .permissionDenied
  | .ok _ => .error .permissionDenied

/-- The first of the paths at which an executable is. A path to what cannot be run is passed over, and told of if
there is no other. -/
def firstExecutable (disk : Files.Disk) : List String → Except SystemError (String × Executable)
  | [] => .error .noSuchFile
  | path :: rest =>
    match executableAt disk path, firstExecutable disk rest with
    | .ok e, _ => .ok (path, e)
    | .error .permissionDenied, .error _ => .error .permissionDenied
    | .error _, later => later

def locate (disk : Files.Disk) (folders : List String) (name : String) : Except SystemError (String × Executable) :=
  if name.toList.contains '/' then (executableAt disk name).map (name, ·)
  else if name = "" then .error .noSuchFile
  else if Files.Tree.nameLimit < name.length then .error .nameTooLong
  else firstExecutable disk (folders.map fun folder => if folder = "" then name else Files.join folder name)

end Emplace.Program
