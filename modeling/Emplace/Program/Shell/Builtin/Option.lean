import Emplace.Program.Shell.Builtin.Variable

namespace Emplace.Program.Shell

/-- Switches an option, given by its letter. Nobody can watch the jobs of a shell without a terminal. -/
def switch (on : Bool) (s : State) (letter : Char) : State :=
  let others := s.options.filter (· != letter)
  if letter == 'm' && on then s.say "can\x27t access tty; job control turned off"
  else { s with options := if on then letter :: others else others }

def listOptions (s : State) (asCommands : Bool) : State :=
  if asCommands then
    State.optionNames.foldl
      (fun s (name, letter) => s.printLine ((if s.isOn letter then "set -o " else "set +o ") ++ name)) s
  else
    State.optionNames.foldl
      (fun s (name, letter) => s.printLine (leftAligned 16 name ++ if s.isOn letter then "on" else "off"))
      (s.printLine "Current option settings")

def setOptions (s : State) : (on : Bool) → (letters : List Char) → (rest : List String) → State × List String
  | _, [], rest => (s, rest)
  | on, 'o' :: letters, [] => setOptions (listOptions s !on) on letters []
  | on, 'o' :: letters, name :: rest =>
    match State.optionNames.lookup name with
    | some c => setOptions (switch on s c) on letters rest
    | none => (s.refuse s!"Illegal option -o {name}" 2, rest)
  | on, c :: letters, rest =>
    if 32 < c.toNat && State.optionNames.any fun (_, letter) => letter == c then
      setOptions (switch on s c) on letters rest
    else (s.refuse s!"Illegal option -{c}" 2, rest)

def readOptions : (bound : Nat) → State → List String → State × List String × Bool
  | 0, s, args => (s, args, false)
  | _, s, [] => (s, [], false)
  | bound + 1, s, arg :: rest =>
    match arg.toList with
    | ['-', '-'] => (s, rest, true)
    | ['-'] => ({ s with options := s.options.filter fun c => c != 'x' && c != 'v' }, rest, false)
    | ['+'] => readOptions bound s rest
    | sign :: c :: letters =>
      if sign == '-' || sign == '+' then
        let (s, rest) := setOptions s (sign == '-') (c :: letters) rest
        if s.jump.isSome then (s, rest, false) else readOptions bound s rest
      else (s, arg :: rest, false)
    | _ => (s, arg :: rest, false)

def setCommand : Builtin := fun s args =>
  if args.isEmpty then listVariables s "" (s.bindings.map Prod.fst)
  else
    let (s, rest, asked) := readOptions (args.length + 1) s.succeed args
    if s.jump.isNone && (asked || !rest.isEmpty) then { s with positional := rest, optionPlace := ⟨1, 0⟩ } else s

def shownAlias (name text : String) : String := s!"{name}={singleQuoted text}"

def aliasCommand : Builtin := fun s args =>
  let known := s.aliases.reverse
  let ordered := (List.range State.chains).flatMap fun chain =>
    known.filter fun (name, _) => State.chainOf name = chain
  if args.isEmpty then (ordered.foldl (fun s (name, text) => s.printLine (shownAlias name text)) s).succeed
  else
    args.foldl
      (fun s arg =>
        let (front, value) := (arg.toList.drop 1).span (· != '=')
        let name := String.ofList (arg.toList.take 1 ++ front)
        match value with
        | _ :: text => { s with aliases := State.bound name (String.ofList text) s.aliases }
        | [] =>
          match s.aliases.lookup arg with
          | some text => s.printLine (shownAlias arg text)
          | none => (s.sayPlainly s!"alias: {arg} not found").withStatus 1)
      s.succeed

def unaliasCommand : Builtin := fun s args =>
  withLetters s ['a'] [] args fun letters names =>
    if letters.has 'a' then { s with aliases := [], status := 0 }
    else
      names.foldl
        (fun s name =>
          if (s.aliases.lookup name).isSome then { s with aliases := s.aliases.filter (·.1 != name) }
          else (s.sayPlainly s!"unalias: {name} not found").withStatus 1)
        s.succeed

end Emplace.Program.Shell
