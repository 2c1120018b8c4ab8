import Emplace.Device.Admission
import Emplace.Files.Walk

namespace Emplace.Device

abbrev Applied := Roster ServiceDescriptor

def applyChanged (count : Nat) (applied : Applied) (d : ServiceDescriptor) :
    Request (Nat × Applied) := do
  if applied.get? d.serviceName = some d then return (count, applied)
  else
    match ← (applyDescriptor d).run with
    | .ok () => return (count + 1, applied.insert d.serviceName d)
    | .error _ => return (count, applied)

def applyScan (applied : Applied) (scan : List ServiceDescriptor) : Request (Nat × Applied) :=
  scan.foldlM (fun (count, applied) d => applyChanged count applied d) (0, applied)

def reload (applied : Applied) (scan : Except Files.WalkError (List ServiceDescriptor)) :
    Request (Except Files.WalkError Nat × Applied) := do
  match scan with
  | .error e => return (.error e, applied)
  | .ok descriptors =>
    let (count, applied) ← applyScan applied descriptors
    return (.ok count, applied)

end Emplace.Device
