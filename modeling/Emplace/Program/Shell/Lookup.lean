import Emplace.Program.Shell.Builtin.Limit
import Emplace.Program.Shell.Builtin.Place
import Emplace.Program.Shell.Session

namespace Emplace.Program.Shell

def specials : List (String × Builtin) :=
  [(":", fun s _ => s.succeed), ("break", leaveCommand .leave), ("continue", leaveCommand .next),
    ("exit", exitCommand), ("export", exportCommand), ("local", localCommand), ("readonly", readonlyCommand),
    ("return", returnCommand), ("set", setCommand), ("shift", shiftCommand), ("times", timesCommand),
    ("trap", trapCommand), ("unset", unsetCommand)]

def builtins : List (String × Builtin) :=
  [("[", bracketCommand), ("alias", aliasCommand), ("bg", moveCommand), ("cd", cdCommand), ("chdir", cdCommand),
    ("echo", echoCommand), ("false", fun s _ => s.withStatus 1), ("fg", moveCommand), ("getopts", getoptsCommand),
    ("jobs", jobsCommand), ("kill", killCommand), ("printf", printfCommand),
    ("pwd", pwdCommand), ("read", readLineCommand), ("test", testCommand), ("true", fun s _ => s.succeed),
    ("ulimit", ulimitCommand), ("umask", umaskCommand), ("unalias", unaliasCommand)]

def specialCommands : List String := [".", "eval", "exec"] ++ specials.map Prod.fst

def plainCommands : List String := ["command", "hash", "type", "wait"] ++ builtins.map Prod.fst

def isOwnCommand (name : String) : Bool := specialCommands.contains name || plainCommands.contains name

def State.remember (s : State) (name path : String) : State :=
  if name.toList.contains '/' then s
  else
    let known := s.found.filter (·.1 != name)
    { s with found := known ++ [(name, path)], stale := s.stale.filter (· ≠ name) }

def pathChains : Nat := 31

def listFound (s : State) : State :=
  let chainOf (name : String) : Nat :=
    let codes := name.toList.map Char.toNat
    (codes.headD 0 * 16 + codes.foldl (· + ·) 0) % 0x8000 % pathChains
  let ordered := (List.range pathChains).flatMap fun chain => s.found.filter fun (name, _) => chainOf name = chain
  (ordered.foldl (fun s (name, path) => s.printLine (path ++ if s.stale.contains name then "*" else "")) s).succeed

def hashCommand : Builtin := fun s args =>
  withLetters s ['r'] [] args fun letters names =>
    if letters.has 'r' then { s with found := [], stale := [], status := 0 }
    else if names.isEmpty then listFound s
    else
      names.foldl
        (fun s name =>
          if isOwnCommand name || (s.functions.lookup name).isSome || name.toList.contains '/' then s
          else
            match locate s.disk s.folders name with
            | .ok (path, _) => s.remember name path
            | .error _ => s.complain s!"{name}: not found" 1)
        s.succeed

def meaning? (s : State) (name : String) : Option (String × String) :=
  if keywords.contains name then some ("is a shell keyword", name)
  else
    match s.aliases.lookup name, s.functions.lookup name with
    | some text, _ => some (s!"is an alias for {text}", "alias " ++ shownAlias name text)
    | none, some _ => if specialCommands.contains name then some ("is a special shell builtin", name)
      else some ("is a shell function", name)
    | none, none =>
      if specialCommands.contains name then some ("is a special shell builtin", name)
      else if plainCommands.contains name then some ("is a shell builtin", name)
      else if name.toList.contains '/' then
        if s.disk.pathExists (Raw.toText name) then some (s!"is {name}", name) else none
      else
        (locate s.disk s.folders name).toOption.map fun (path, _) =>
          (if (s.found.lookup name).isSome then s!"is a tracked alias for {path}" else s!"is {path}", path)

def describe (short : Bool) (s : State) (names : List String) : State :=
  names.foldl
    (fun s name =>
      let path := (locate s.disk s.folders name).toOption.map Prod.fst
      match meaning? s name with
      | some (words, call) =>
        let s := s.printLine (if short then call else s!"{name} {words}")
        if path = some call then s.remember name call else s
      | none => (if short then s else s.printLine s!"{name}: not found").withStatus 127)
    s.succeed

end Emplace.Program.Shell
