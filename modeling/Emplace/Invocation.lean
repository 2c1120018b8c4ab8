namespace Emplace

structure InvokeRequest where
  serviceName : String
  requester : String
  args : List String
  timeoutMs : Option UInt64
  deriving DecidableEq, Repr, Inhabited

structure InvokeBody where
  requester : String
  args : List String
  timeoutMs : Option UInt64
  deriving DecidableEq, Repr, Inhabited

def InvokeBody.toRequest (body : InvokeBody) (serviceName : String) : InvokeRequest :=
  ⟨serviceName, body.requester, body.args, body.timeoutMs⟩

/-- What a finished process left. There is no exit code when a signal ended it. -/
structure ExecutionOutput where
  exitCode : Option Int32
  stdout : String
  stderr : String
  deriving DecidableEq, Repr, Inhabited

def ExecutionOutput.success (output : ExecutionOutput) : Bool := output.exitCode == some 0

structure InvokeResponse where
  serviceName : String
  targetDeviceId : String
  isLocal : Bool
  output : ExecutionOutput
  deriving DecidableEq, Repr, Inhabited

structure RemoteExecution where
  serviceName : String
  requester : String
  executable : String
  args : List String
  deriving DecidableEq, Repr, Inhabited

structure PlacementDecision where
  targetDeviceId : String
  targetAddress : String
  isLocal : Bool
  deriving DecidableEq, Repr, Inhabited

end Emplace
