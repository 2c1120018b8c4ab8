import Emplace.Device.Interface
import Emplace.Scoring.Formula

namespace Emplace.Device

def sampleMetric (metric : Metric) : Procedure.Fallible interface ScoreError Float := do
  match ← ExceptT.lift (Request.call (.sample metric)) with
  | .ok x => return x
  | .error e => throw (.unavailable metric e)

def sample (target : String) : Procedure.Fallible interface ScoreError Readings := do
  if ← ExceptT.lift (Request.access .isClosed) then throw .closed
  let cpuUsage ← sampleMetric .cpuUsage
  let cpuCount ← sampleMetric .cpuCount
  let cpuFrequency ← sampleMetric .cpuFrequency
  let bandwidth ← sampleMetric .bandwidth
  let roundTrip ← sampleMetric (.roundTrip target)
  return ⟨cpuUsage, cpuCount, cpuFrequency, bandwidth, roundTrip⟩

def tryScore (target : String) : Procedure.Fallible interface ScoreError Float := do
  return Scoring.total (← sample target)

def score (target : String) : Request Float := do
  match ← (tryScore target).run with
  | .ok x => return x
  | .error _ => return 0.0

def close : Request Unit := do
  if ← Request.access .close then return () else Request.call .release

end Emplace.Device
