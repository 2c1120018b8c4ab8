import Emplace.Device.Admission
import Emplace.Device.Profile
import Emplace.Device.Scoring
import Emplace.Placement

namespace Emplace.Device

open FallibleRequest

def chooseTarget (profile : Profile) (service : String) : FallibleRequest PlacementDecision := do
  let own ← certain (score profile.id)
  let peers ← certain (Request.access .peers)
  match Placement.select ⟨profile.id, profile.address, own⟩ peers with
  | some decision => return decision
  | none => throw (.noEligibleTarget service)

def place (profile : Profile) (service requester : String) :
    FallibleRequest PlacementDecision := do
  checkRequester service requester
  let _ ← resolve service
  chooseTarget profile service

end Emplace.Device
