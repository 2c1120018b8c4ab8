import Emplace.Files.Disk
import Emplace.Program.Raw

namespace Emplace.Program

inductive Ending
  | exited (code : Nat)
  | killed (signal : Nat)
  deriving DecidableEq, Repr, Inhabited

structure Surroundings where
  disk : Files.Disk
  environment : List (String × String)
  input : Bytes
  /-- Whether the input is a file, so that a program that stops early leaves the rest of it to others. -/
  isFile : Bool
  deriving Inhabited

def Surroundings.of (disk : Files.Disk) (environment : List (String × String)) : Surroundings :=
  ⟨disk, environment, [], false⟩

structure Finished where
  stdout : Bytes := []
  stderr : Bytes := []
  ending : Ending
  unread : Option Bytes := none
  changed : Option Files.Disk := none
  took : Nat := 0
  deriving Inhabited

namespace Finished

def silent (code : Nat) : Finished := { ending := .exited code }

def printed (out : Bytes) : Finished := { stdout := out, ending := .exited 0 }

def printedText (out : String) : Finished := printed (Raw.bytes out)

def complained (message : String) (code : Nat) : Finished :=
  { stderr := Raw.bytes (message ++ "\n"), ending := .exited code }

def puzzled (name message : String) (code : Nat := 1) : Finished :=
  complained s!"{name}: {message}\nTry \x27{name} --help\x27 for more information." code

def followedBy (f g : Finished) : Finished where
  stdout := f.stdout ++ g.stdout
  stderr := f.stderr ++ g.stderr
  ending := if g.ending = .exited 0 then f.ending else g.ending
  unread := g.unread <|> f.unread
  changed := g.changed <|> f.changed
  took := f.took + g.took

end Finished

end Emplace.Program
