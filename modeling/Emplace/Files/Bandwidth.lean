import Emplace.Files.Disk
import Emplace.Telemetry
import Emplace.Text.Blank
import Emplace.Text.Numeral

namespace Emplace.Files

def linkMarks : List String := ["eth", "enp", "wl"]

def isPhysicalLink (name : String) : Bool :=
  linkMarks.any fun mark => Text.occursIn mark.toList name.toList

def queueLength? (disk : Disk) (path name : String) : Option UInt64 :=
  match disk.read (join (join path name) "tx_queue_len") with
  | .error _ => none
  | .ok content =>
    (Text.decode? content).bind fun text => (Text.word64? (Text.trim text)).map UInt64.ofNat

def queueLengths (disk : Disk) (path : String) (names : List String) : List UInt64 :=
  (names.filter isPhysicalLink).filterMap (queueLength? disk path)

def meanLength (lengths : List UInt64) : Except TelemetryError Float :=
  let total := lengths.foldl (· + ·) 0
  let count := UInt64.ofNat lengths.length
  if count = 0 then .error (.unavailable "network/bandwidth: no matching interface")
  else .ok (total.toFloat / count.toFloat)

def bandwidth (disk : Disk) (path : String) : Except TelemetryError Float :=
  match disk.list path with
  | .error e => .error (.io e)
  | .ok entries => meanLength (queueLengths disk path (entries.map Prod.fst))

end Emplace.Files
