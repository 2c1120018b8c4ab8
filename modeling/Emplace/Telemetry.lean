import Emplace.SystemError

namespace Emplace

inductive Metric
  | cpuUsage
  | cpuCount
  | cpuFrequency
  | bandwidth
  | roundTrip (target : String)
  deriving DecidableEq, Repr, Inhabited

def Metric.name : Metric → String
  | .cpuUsage => "cpu/usage"
  | .cpuCount => "cpu/count"
  | .cpuFrequency => "cpu/freq"
  | .bandwidth => "network/bandwidth"
  | .roundTrip _ => "network/rtt"

inductive TelemetryError
  | unavailable (what : String)
  | unknownTarget (deviceId : String)
  | probe (what : String)
  | io (cause : SystemError)
  deriving DecidableEq, Repr, Inhabited

def TelemetryError.text : TelemetryError → String
  | .unavailable what => s!"metric unavailable: {what}"
  | .unknownTarget deviceId => s!"unknown target device: {deviceId}"
  | .probe what => s!"latency probe failed: {what}"
  | .io cause => s!"io error: {cause.text}"

structure Readings where
  cpuUsage : Float
  cpuCount : Float
  cpuFrequency : Float
  bandwidth : Float
  roundTrip : Float
  deriving Repr, Inhabited

inductive ScoreError
  | unavailable (metric : Metric) (cause : TelemetryError)
  | closed
  deriving DecidableEq, Repr, Inhabited

def ScoreError.text : ScoreError → String
  | .unavailable metric cause => s!"score unavailable: {metric.name} sample failed: {cause.text}"
  | .closed => "scorer has been closed"

end Emplace
