import Emplace.Settings

namespace Emplace

structure Profile where
  id : String
  address : String
  cipher : Cipher
  /-- How long a forwarded execution may take unless the request says otherwise. -/
  limit : Duration
  seeds : List String
  deriving Inhabited

def Profile.ofSettings (settings : Settings) (hostname : String)
    (keyFile : Option (Except SystemError Bytes)) : Except Cipher.SetupError Profile :=
  (Cipher.ofConfig settings.dispatch.cipher keyFile).map fun cipher =>
    ⟨settings.deviceId hostname, settings.advertiseAddress, cipher, settings.dispatchTimeout,
      settings.exchange.peers⟩

end Emplace
