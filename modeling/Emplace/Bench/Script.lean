import Emplace.Device.Interface
import Emplace.Program.Execute

namespace Emplace.Bench

/-- The figures that gauges show. A round trip to a target that is not listed apart shows the common figure. -/
structure Gauges where
  cpuUsage : Except TelemetryError Float
  cpuCount : Except TelemetryError Float
  cpuFrequency : Except TelemetryError Float
  bandwidth : Except TelemetryError Float
  roundTrip : Except TelemetryError Float
  roundTripTo : List (String × Except TelemetryError Float)

def Gauges.constant (x : Float) : Gauges := ⟨.ok x, .ok x, .ok x, .ok x, .ok x, []⟩

instance : Inhabited Gauges := ⟨.constant 0⟩

def Gauges.read (g : Gauges) : Metric → Except TelemetryError Float
  | .cpuUsage => g.cpuUsage
  | .cpuCount => g.cpuCount
  | .cpuFrequency => g.cpuFrequency
  | .bandwidth => g.bandwidth
  | .roundTrip target => (g.roundTripTo.lookup target).getD g.roundTrip

inductive Runner
  | echo
  | always (outcome : Except DispatchError ExecutionOutput)
  | processes
  deriving Inhabited

def echoed (executable : String) (args : List String) : ExecutionOutput :=
  ⟨some 0, executable ++ " " ++ " ".intercalate args, ""⟩

def Runner.run (runner : Runner) (executable : String) (args : List String) :
    Except DispatchError ExecutionOutput :=
  match runner with
  | .echo => .ok (echoed executable args)
  | .always outcome => outcome
  | .processes => Program.execute executable args

abbrev Routes := List (String × Delivery)

end Emplace.Bench
