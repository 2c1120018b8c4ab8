import Emplace.Failure
import Emplace.Roster

namespace Emplace.Admission

def denylist : List String :=
  ["sudo", "su", "bash", "bsh", "csh", "adb", "sh", "ssh", "scp", "cat", "chage", "chpasswd",
   "dmidecode", "dmsetup", "fcinfo", "fdisk", "iscsiadm", "lsof", "multipath", "oratab",
   "prtvtoc", "ps", "pburn", "pfexec", "dzdo"]

def baseName (executable : String) : String :=
  String.ofList ((executable.toList.reverse.takeWhile (· != '/')).reverse)

def approve (service executable : String) : Except Failure Unit :=
  if baseName executable = "" then .error (.invalidCommand (.emptyExecutable service))
  else if baseName executable ∈ denylist then .error (.disallowedExecutable executable)
  else .ok ()

def shellOperators : List Char := [';', '|', '&', '\x60', '<', '>', '\n']

def hasOperator : List Char → Bool
  | [] => false
  | '$' :: '(' :: _ => true
  | c :: cs => shellOperators.contains c || hasOperator cs

def checkArgs (args : List String) : Except Failure Unit :=
  match args.find? fun arg => hasOperator arg.toList with
  | some arg => .error (.invalidCommand (.shellOperator arg))
  | none => .ok ()

def resolved (service : String) (found : Option String) : Except Failure String :=
  match found with
  | some executable => .ok executable
  | none => .error (.serviceNotRegistered service)

def verified (service executable : String) (found : Option String) : Except Failure Unit :=
  match resolved service found with
  | .error e => .error e
  | .ok registered =>
    if registered = executable then .ok ()
    else .error (.invalidCommand (.otherExecutable executable service))

abbrev Commands := Roster String

namespace Commands

def register (t : Commands) (service executable : String) : Except Failure Commands :=
  (approve service executable).map fun () => t.insert service executable

def resolve (t : Commands) (service : String) : Except Failure String :=
  resolved service (t.get? service)

def verify (t : Commands) (service executable : String) : Except Failure Unit :=
  verified service executable (t.get? service)

end Commands

end Emplace.Admission
