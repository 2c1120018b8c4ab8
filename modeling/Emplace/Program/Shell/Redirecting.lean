import Emplace.Program.Shell.Running

namespace Emplace.Program.Shell

open Files (Disk)

def openFault (missing : String) : SystemError → String
  | .noSuchFile | .notADirectory => missing
  | e => e.words

def cannotOpen (path : String) (e : SystemError) : String := s!"cannot open {path}: " ++ openFault "No such file" e

def streamOf? (path : String) : Option Nat :=
  match path with
  | "/dev/stdin" => some 0
  | "/dev/stdout" => some 1
  | "/dev/stderr" => some 2
  | _ => (Text.stripStart? "/dev/fd/".toList path.toList).bind Text.digits?

/-- How many zeros are read from what has no end. -/
def endlessZeros : Nat := 300000

def sourceAt (disk : Disk) (path : String) : Except SystemError Source :=
  if path = "/dev/zero" then .ok ⟨List.replicate endlessZeros 0, false⟩
  else if path = "/dev/tty" then .error (.described "No such device or address")
  else
    match disk.read (Raw.toText path) with
    | .ok bytes => .ok ⟨bytes, true⟩
    | .error .isADirectory => .ok ⟨[], true⟩
    | .error e => .error e

def leadToFile (s : State) (stream : Nat) (append keep : Bool) (path : String) : State :=
  let refuse (words : String) : State := s.refuse (s!"cannot create {path}: " ++ words) 2
  let missing := "Directory nonexistent"
  match (streamOf? path).bind fun n => s.streams.lookup n with
  | some channel => s.lead stream channel
  | none =>
    if path = "/dev/tty" then refuse "No such device or address"
    else
      match s.disk.locate .followed (Raw.toText path) with
      | .error e => refuse (openFault missing e)
      | .ok place =>
        let before := s.disk.root.at? place
        let content := if append then (s.disk.read (Raw.toText path)).toOption.getD [] else []
        match before, s.disk.write (Raw.toText path) content with
        | some (.file _), _ =>
          if keep && !append then refuse "File exists"
          else
            let disk := (s.disk.write (Raw.toText path) content).toOption.getD s.disk
            { s with disk := disk }.lead stream (.file ("/" ++ "/".intercalate place))
        | _, .ok disk => { s with disk := disk }.lead stream (.file ("/" ++ "/".intercalate place))
        | _, .error e => refuse (openFault missing e)

def leadFromFile (s : State) (stream : Nat) (path : String) : State :=
  match (streamOf? path).bind fun n => s.streams.lookup n with
  | some channel => s.lead stream channel
  | none =>
    match sourceAt s.disk path with
    | .ok source => s.leadToSource stream source
    | .error e => s.refuse (cannotOpen path e) 2

def leadBothWays (s : State) (stream : Nat) (path : String) : State :=
  let made := leadToFile s stream true false path
  if made.jump.isSome || stream ≠ 0 then made else leadFromFile made stream path

def leadLike (s : State) (stream : Nat) (target : String) : State :=
  if target = "-" then s.close stream
  else
    match target.toList with
    | [c] =>
      if !c.isDigit then s.giveUp "Syntax error: Bad fd number" 2
      else
        match s.streams.lookup (Text.digitsValue [c]) with
        | some channel => s.lead stream channel
        | none => (s.close stream).refuse s!"{target}: Bad file descriptor" 2
    | _ => s.giveUp "Syntax error: Bad fd number" 2

def redirect (run : Runner) (s : State) (r : Redirection) : State :=
  if s.jump.isSome then s
  else
    let tildes : Tildes := match r.direction with
      | .here _ => .nowhere
      | _ => .start
    let (s, target) := wordText run tildes s r.target
    if s.jump.isSome then s
    else
      match r.direction with
      | .output => leadToFile s r.stream false (s.isOn 'C') target
      | .over => leadToFile s r.stream false false target
      | .append => leadToFile s r.stream true false target
      | .both => leadBothWays s r.stream target
      | .duplicate => leadLike s r.stream target
      | .here _ => s.leadToSource r.stream ⟨Raw.bytes target, false⟩
      | .input => leadFromFile s r.stream target

def State.leadBack (s before : State) (streams : List Nat) : State :=
  { s with streams := (before.streams.filter fun (n, _) => streams.contains n) ++
      s.streams.filter fun (n, _) => !streams.contains n }

def redirecting (run : Runner) (redirections : List Redirection) (part : State → State) (s : State) : State :=
  let ready := redirections.foldl (redirect run) s
  let after := if ready.jump.isSome then ready else part ready
  after.leadBack s (redirections.map Redirection.stream)

end Emplace.Program.Shell
