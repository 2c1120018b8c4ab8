import Emplace.Score
import Emplace.Telemetry

namespace Emplace.Scoring

def cpuTerm (usage count frequency : Float) : Float :=
  ((1.0 / (5.66 * frequency.pow (-0.66))) + (1.0 / (3.22 * usage.pow (-0.241))) +
    (1.0 / (4.0 * count.pow (-0.3)))) / 3.0

def networkTerm (bandwidth : Float) : Float := 1.0 / (8770.0 * bandwidth.pow (-0.9))

def latencyTerm (roundTrip : Float) : Float :=
  if roundTrip > 0.0 then 0.77 * roundTrip.pow (-0.43) else 0.0

def rawTotal (r : Readings) : Float :=
  networkTerm r.bandwidth + cpuTerm r.cpuUsage r.cpuCount r.cpuFrequency / 2.0 +
    latencyTerm r.roundTrip

def total (r : Readings) : Float := if isUsable (rawTotal r) then rawTotal r else 0.0

end Emplace.Scoring
