import Emplace.Program.Launcher
import Emplace.Program.Utility.Input

namespace Emplace.Program.Launcher

def plainFault (s : String) (name : String) (e : SystemError) : String := s!"{s}: {inQuotes name}: {e.words}"

def fullFault (s : String) (name : String) (e : SystemError) : String :=
  s!"{s}: failed to run command {inQuotes name}: {e.words}"

def niceBounds : Int × Int := (-20, 19)

def withLetter (arg : String) : String :=
  match arg.toList with
  | '-' :: rest =>
    let digits := match rest with
      | '-' :: ds | '+' :: ds => ds
      | ds => ds
    if (digits.head?.map Char.isDigit).getD false then "-n" ++ String.ofList rest else arg
  | _ => arg

def niceArguments : List String → List String
  | [] => []
  | arg :: rest =>
    if arg = "-n" then arg :: rest.take 1 ++ niceArguments (rest.drop 1)
    else if arg.toList.head? == some '-' && arg ≠ "--" then withLetter arg :: niceArguments rest
    else arg :: rest
termination_by args => args.length

def nice : Launcher := fun start s call =>
  let g : Grammar :=
    { name := call.name, known := [⟨'n', "adjustment", .value⟩], status := 125, mixed := false }
  match g.read (call.args.length + 1) (niceArguments call.args) with
  | .error f => leaving s call.name f
  | .ok (options, args) =>
    let asked := options.value? 'n'
    let number? (text : String) : Option Int :=
      match text.toList with
      | '+' :: ds => (Text.digits? ds).map fun n => (n : Int)
      | '-' :: ds => (Text.digits? ds).map fun n => -(n : Int)
      | ds => (Text.digits? ds).map fun n => (n : Int)
    match asked.filter fun text => (number? text).isNone with
    | some text => leaving s call.name (.complained s!"{call.name}: invalid adjustment {inQuotes text}" 125)
    | none =>
      if args.isEmpty then
        if options.isEmpty then leaving s call.name (.printedText s!"{s.niceness}\n")
        else leaving s call.name (g.refuse "a command must be given with an adjustment")
      else
        let wanted := s.niceness + (asked.bind number?).getD 10
        let niceness := max niceBounds.1 (min niceBounds.2 wanted)
        let (after, ending) :=
          runningArguments start { s with niceness := niceness } call args (plainFault call.name)
        ({ after with niceness := s.niceness }, ending)

def nohup : Launcher := fun start s call =>
  let g : Grammar := { name := call.name, known := [], status := 125, mixed := false }
  match g.read (call.args.length + 1) call.args with
  | .error f => leaving s call.name f
  | .ok (_, []) => leaving s call.name (g.refuse "missing operand")
  | .ok (_, args) =>
    let fault (name : String) (e : SystemError) : String :=
      s!"{call.name}: failed to run command {alwaysQuoted name}: {e.words}"
    runningArguments start s call args fault

def setsid : Launcher := fun start s call =>
  let known := [⟨'c', "ctty", .nothing⟩, ⟨'f', "fork", .nothing⟩, ⟨'w', "wait", .nothing⟩]
  let g : Grammar := { name := "setsid", known := known, mixed := false }
  match g.read (call.args.length + 1) call.args with
  | .error f => leaving s call.name f
  | .ok (_, []) => leaving s call.name (g.refuse "no command specified")
  | .ok (options, args) =>
    if options.has 'c' then
      leaving s call.name
        (.complained "setsid: failed to set the controlling terminal: Inappropriate ioctl for device" 1)
    else
      let fault (name : String) (e : SystemError) : String := s!"setsid: failed to execute {name}: {e.words}"
      let (after, ending) := runningArguments start s call args fault
      (after, if options.has 'f' && !options.has 'w' then .exited 0 else ending)

def stdbuf : Launcher := fun start s call =>
  let known := [⟨'i', "input", .value⟩, ⟨'o', "output", .value⟩, ⟨'e', "error", .value⟩]
  let g : Grammar := { name := call.name, known := known, status := 125, mixed := false }
  match g.read (call.args.length + 1) call.args with
  | .error f => leaving s call.name f
  | .ok (options, args) =>
    let isWrong (o : Given) : Bool := (o.value.filter fun mode => mode ≠ "L").any fun mode =>
      (Utility.count? mode).isNone
    let wrong := options.find? fun o => isWrong o || o.letter == 'i' && o.value = some "L"
    match wrong with
    | some ⟨_, some "L"⟩ => leaving s call.name (g.refuse "line buffering stdin is meaningless")
    | some o =>
      leaving s call.name (.complained (call.name ++ ": invalid mode " ++ inQuotes (o.value.getD "")) 125)
    | none =>
      if args.isEmpty then leaving s call.name (g.refuse "missing operand")
      else if options.isEmpty then leaving s call.name (g.refuse "you must specify a buffering mode option")
      else runningArguments start s call args (fullFault call.name)

end Emplace.Program.Launcher
