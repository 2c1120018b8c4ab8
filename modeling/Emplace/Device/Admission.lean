import Emplace.Device.Interface
import Emplace.Service

namespace Emplace.Device

open FallibleRequest

def registerService (service executable : String) : FallibleRequest Unit := do
  settle (Admission.approve service executable)
  certain (Request.access (.setCommand service executable))

def storeRequesters (service : String) (requesters : List String) : Request Unit :=
  Request.access (.setAllowList service requesters)

/-- Takes in a service: first its executable, then its allow-list. A refused executable leaves the
allow-list as it was. -/
def applyDescriptor (d : ServiceDescriptor) : FallibleRequest Unit := do
  registerService d.serviceName d.executable
  certain (storeRequesters d.serviceName d.allowedRequesters)

def checkRequester (service requester : String) : FallibleRequest Unit := do
  settle (Admission.permitted service requester (← certain (Request.access (.allowList service))))

def resolve (service : String) : FallibleRequest String := do
  settle (Admission.resolved service (← certain (Request.access (.command service))))

def verify (service executable : String) : FallibleRequest Unit := do
  settle
    (Admission.verified service executable (← certain (Request.access (.command service))))

def admitted (service requester : String) (args : List String) : FallibleRequest String := do
  checkRequester service requester
  let executable ← resolve service
  settle (Admission.checkArgs args)
  return executable

end Emplace.Device
