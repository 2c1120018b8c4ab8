import Emplace.Failure
import Emplace.Roster

namespace Emplace.Admission

def permitted (service requester : String) (found : Option (List String)) : Except Failure Unit :=
  match found with
  | none => .error (.serviceNotRegistered service)
  | some allowed =>
    if requester ∈ allowed then .ok () else .error (.requesterNotAllowed service requester)

abbrev AllowLists := Roster (List String)

namespace AllowLists

def store (t : AllowLists) (service : String) (requesters : List String) : AllowLists :=
  t.insert service requesters

def check (t : AllowLists) (service requester : String) : Except Failure Unit :=
  permitted service requester (t.get? service)

end AllowLists

end Emplace.Admission
