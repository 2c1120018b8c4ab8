import Emplace.Invocation
import Emplace.Json.Text
import Emplace.Peers.Registry
import Emplace.Record.Shape
import Emplace.Service

namespace Emplace

def required (name : String) (shape : Shape β) : Field β := { name, shape }

def possible (name : String) (shape : Shape β) : Field (Option β) :=
  { name, shape := shape.optional, absent := some none }

def defaulted (name : String) (shape : Shape β) (value : β) : Field β :=
  { name, shape, absent := some value, short := some value }

def DeviceScore.shape : Shape DeviceScore :=
  .record
    (.cons (required "device_id" .text) <| .cons (required "score" .real) <|
      .cons (required "observed_at" .word64) .none)
    (fun (deviceId, score, observedAt, ()) => ⟨deviceId, score, observedAt⟩)
    (fun r => (r.deviceId, r.score, r.observedAt, ()))

def PeerEntry.shape : Shape PeerEntry :=
  .record
    (.cons (required "device_id" .text) <| .cons (required "address" .text) <|
      .cons (required "latest_score" DeviceScore.shape) <|
      .cons (required "registered_at" .word64) .none)
    (fun (deviceId, address, latestScore, registeredAt, ()) =>
      ⟨deviceId, address, latestScore, registeredAt⟩)
    (fun r => (r.deviceId, r.address, r.latestScore, r.registeredAt, ()))

def Announcement.shape : Shape Announcement :=
  .record
    (.cons (required "device_id" .text) <| .cons (required "address" .text) <|
      .cons (required "score" DeviceScore.shape) .none)
    (fun (deviceId, address, score, ()) => ⟨deviceId, address, score⟩)
    (fun r => (r.deviceId, r.address, r.score, ()))

def ServiceRegistration.shape : Shape ServiceRegistration :=
  .record
    (.cons (required "service_name" .text) <| .cons (required "executable_name" .text) .none)
    (fun (serviceName, executableName, ()) => ⟨serviceName, executableName⟩)
    (fun r => (r.serviceName, r.executableName, ()))

def RequesterRecord.shape : Shape RequesterRecord :=
  .record
    (.cons (required "service_name" .text) <|
      .cons (required "allowed_requesters" (.list .text)) .none)
    (fun (serviceName, allowedRequesters, ()) => ⟨serviceName, allowedRequesters⟩)
    (fun r => (r.serviceName, r.allowedRequesters, ()))

def ServiceDescriptor.shape : Shape ServiceDescriptor :=
  .record
    (.cons (required "service_name" .text) <| .cons (required "executable" .text) <|
      .cons (defaulted "allowed_requesters" (.list .text) []) .none)
    (fun (serviceName, executable, allowedRequesters, ()) =>
      ⟨serviceName, executable, allowedRequesters⟩)
    (fun r => (r.serviceName, r.executable, r.allowedRequesters, ()))

def PlacementDecision.shape : Shape PlacementDecision :=
  .record
    (.cons (required "target_device_id" .text) <| .cons (required "target_address" .text) <|
      .cons (required "is_local" .flag) .none)
    (fun (targetDeviceId, targetAddress, isLocal, ()) => ⟨targetDeviceId, targetAddress, isLocal⟩)
    (fun r => (r.targetDeviceId, r.targetAddress, r.isLocal, ()))

def InvokeRequest.shape : Shape InvokeRequest :=
  .record
    (.cons (required "service_name" .text) <| .cons (required "requester" .text) <|
      .cons (defaulted "args" (.list .text) []) <|
      .cons { defaulted "timeout_ms" (.optional .word64) none with leftOut := Option.isNone } .none)
    (fun (serviceName, requester, args, timeoutMs, ()) => ⟨serviceName, requester, args, timeoutMs⟩)
    (fun r => (r.serviceName, r.requester, r.args, r.timeoutMs, ()))

def InvokeBody.shape : Shape InvokeBody :=
  .record
    (.cons (required "requester" .text) <| .cons (defaulted "args" (.list .text) []) <|
      .cons (defaulted "timeout_ms" (.optional .word64) none) .none)
    (fun (requester, args, timeoutMs, ()) => ⟨requester, args, timeoutMs⟩)
    (fun r => (r.requester, r.args, r.timeoutMs, ()))

def ExecutionOutput.shape : Shape ExecutionOutput :=
  .record
    (.cons (possible "exit_code" .int32) <| .cons (required "stdout" .text) <|
      .cons (required "stderr" .text) .none)
    (fun (exitCode, stdout, stderr, ()) => ⟨exitCode, stdout, stderr⟩)
    (fun r => (r.exitCode, r.stdout, r.stderr, ()))

def InvokeResponse.shape : Shape InvokeResponse :=
  .record
    (.cons (required "service_name" .text) <| .cons (required "target_device_id" .text) <|
      .cons (required "is_local" .flag) <| .cons (required "output" ExecutionOutput.shape) .none)
    (fun (serviceName, targetDeviceId, isLocal, output, ()) =>
      ⟨serviceName, targetDeviceId, isLocal, output⟩)
    (fun r => (r.serviceName, r.targetDeviceId, r.isLocal, r.output, ()))

def RemoteExecution.shape : Shape RemoteExecution :=
  .record
    (.cons (required "service_name" .text) <| .cons (required "requester" .text) <|
      .cons (required "executable" .text) <| .cons (required "args" (.list .text)) .none)
    (fun (serviceName, requester, executable, args, ()) =>
      ⟨serviceName, requester, executable, args⟩)
    (fun r => (r.serviceName, r.requester, r.executable, r.args, ()))

def Shape.encode (shape : Shape α) (a : α) : Bytes := (shape.write a).bytes

def Shape.decode (shape : Shape α) (bytes : Bytes) : Except Json.Fault α :=
  Json.Reader.readAll shape.read (Text.symbols bytes)

end Emplace
