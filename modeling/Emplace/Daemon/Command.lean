import Emplace.Text.Blank
import Emplace.Text.Numeral

namespace Emplace.Daemon

inductive Command
  | run (config : Option String) (port : Option UInt16)
  | defaultConfig
  deriving DecidableEq, Repr, Inhabited

namespace Command

def isPlain (arg : String) : Bool := arg = "-" || arg.toList.head? != some '-'

/-- A port: a whole number with an optional sign, where only zero may be marked as negative. -/
def port? (arg : String) : Option UInt16 :=
  let number := match arg.toList with
    | '-' :: digits => (Text.digits? digits).filter (· = 0)
    | cs => Text.word64? cs
  (number.filter (· < UInt16.size)).map UInt16.ofNat

def optionValue? (name : String) (args : List String) : Option (String × List String) :=
  match args with
  | [] => none
  | arg :: rest =>
    if arg = name then
      match rest with
      | value :: rest => if isPlain value then some (value, rest) else none
      | [] => none
    else
      (Text.stripStart? (name ++ "=").toList arg.toList).map fun value =>
        (String.ofList value, rest)

structure Options where
  logJson : Bool
  config : Option String
  port : Option UInt16
  deriving DecidableEq, Repr, Inhabited

def runOptions (options : Options) : Nat → List String → Option Options
  | 0, _ => none
  | _, [] => some options
  | _, ["--"] => some options
  | bound + 1, args =>
    if args.head? = some "--log-json" then
      if options.logJson then none
      else runOptions { options with logJson := true } bound (args.drop 1)
    else
      match optionValue? "--config" args, optionValue? "--port" args with
      | some (path, rest), _ =>
        if path = "" || options.config.isSome then none
        else runOptions { options with config := some path } bound rest
      | none, some (value, rest) =>
        match port? value with
        | some port =>
          if options.port.isSome then none
          else runOptions { options with port := some port } bound rest
        | none => none
      | none, none => none

def ofName? : List String → Option Command
  | "run" :: args =>
    (runOptions ⟨false, none, none⟩ (args.length + 1) args).map fun o => .run o.config o.port
  | "default-config" :: args =>
    if [[], ["--"], ["--log-json"], ["--log-json", "--"]].contains args then some .defaultConfig
    else none
  | _ => none

def ofArguments? : List String → Option Command
  | "--log-json" :: args => ofName? args
  | args => ofName? args

end Command

end Emplace.Daemon
