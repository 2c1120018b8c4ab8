import Emplace.Program.Launcher.Setting
import Emplace.Program.Utility.Interval

namespace Emplace.Program.Launcher

open Shell (State Deadline)

def signalOf? (text : String) : Option Nat :=
  let upper := text.toList.map Char.toUpper
  let bare := (Text.stripStart? "SIG".toList upper).getD upper
  match Text.digits? text.toList with
  | some n => Signal.ofText? (toString (if Signal.status 0 < n then n - Signal.status 0 else n))
  | none => Signal.ofText? (String.ofList bare)

def overStatus : Nat := 124

def timeoutFault? (name : String) (options : GivenOptions) : Option String :=
  options.findSome? fun o =>
    match o.letter, o.value with
    | 'k', some text =>
      if (Utility.intervalOf? text).isNone then some s!"{name}: invalid time interval {inQuotes text}\n" else none
    | 's', some text => if (signalOf? text).isNone then some s!"{name}: {inQuotes text}: invalid signal\n" else none
    | _, _ => none

def timeout : Launcher := fun start s call =>
  let known := [⟨'k', "kill-after", .value⟩, ⟨'s', "signal", .value⟩, ⟨'v', "verbose", .nothing⟩,
    ⟨'\x01', "foreground", .nothing⟩, ⟨'\x02', "preserve-status", .nothing⟩]
  let g : Grammar := { name := call.name, known := known, status := 125, mixed := false }
  let puzzled (front : String) : State × Ending :=
    leaving s call.name (.complained (front ++ s!"Try \x27{call.name} --help\x27 for more information.") 125)
  match g.read (call.args.length + 1) call.args with
  | .error f => leaving s call.name f
  | .ok (options, args) =>
    match timeoutFault? call.name options, args with
    | some fault, _ => puzzled fault
    | none, [] | none, [_] => puzzled ""
    | none, interval :: program :: args =>
      match Utility.intervalOf? interval with
      | none => puzzled s!"{call.name}: invalid time interval {inQuotes interval}\n"
      | some took =>
        let signal := ((options.value? 's').bind signalOf?).getD Signal.terminate
        let later := ((options.value? 'k').bind Utility.intervalOf?).filter (0 < ·)
        let time := s.clock + took
        let own : List Deadline :=
          if took = 0 then []
          else ⟨time, signal, true⟩ :: (later.map fun more => ⟨time + more, Signal.kill, true⟩).toList
        let outer := (s.deadlines.find? Deadline.isShared).map Deadline.time
        let mine := own.filter fun d => outer.all (d.time < ·)
        let running := { s with deadlines := mine ++ s.deadlines, expired := none }
        match start running { call with name := program, args := args } with
        | .error e => (s.sayPlainly (fullFault call.name program e), .exited (faultStatus e))
        | .ok (after, ending) =>
          let isPast (d : Deadline) : Bool := d.time < after.clock || after.expired.isSome && d.time = after.clock
          let sent := mine.filter isPast
          let isOuter := outer.any (· ≤ after.clock) && after.expired.isSome
          let names := sent.map fun d => if d.signal = 0 then "0" else (Signal.nameOf? d.signal).getD ""
          let after := if options.has 'v' then
              names.foldl (fun s n =>
                s.sayPlainly s!"{call.name}: sending signal {n} to command {inQuotes program}") after
            else after
          let after := { after with
            deadlines := s.deadlines.filter fun d => after.clock ≤ d.time && !(isOuter && d.time = after.clock)
            expired := if isOuter then after.expired else s.expired }
          let own : Ending := match ending with
            | .exited code => .exited code
            | .killed n => if n = Signal.kill && !options.has '\x01' then .killed n else .exited (Signal.status n)
          if isOuter then (after, ending)
          else if sent.isEmpty then (after, ending)
          else if options.has '\x02' || ending = .killed Signal.kill then (after, own)
          else (after, .exited overStatus)

end Emplace.Program.Launcher
