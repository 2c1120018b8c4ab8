namespace Emplace

structure ServiceDescriptor where
  serviceName : String
  executable : String
  allowedRequesters : List String
  deriving DecidableEq, Repr, Inhabited

structure ServiceRegistration where
  serviceName : String
  executableName : String
  deriving DecidableEq, Repr, Inhabited

structure RequesterRecord where
  serviceName : String
  allowedRequesters : List String
  deriving DecidableEq, Repr, Inhabited

end Emplace
