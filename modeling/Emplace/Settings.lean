import Emplace.Cipher
import Emplace.Duration
import Emplace.Record.Wire
import Emplace.Text.Quoted
import Emplace.Toml.Document
import Emplace.Toml.Printer

namespace Emplace

def defaultPort : UInt16 := 56001

structure DeviceSettings where
  id : Option String
  listenPort : UInt16
  advertiseAddress : Option String
  deriving DecidableEq, Repr, Inhabited

structure ExchangeSettings where
  publishInterval : String
  livenessWindow : String
  peers : List String
  deriving DecidableEq, Repr, Inhabited

structure DispatchSettings where
  timeout : String
  cipher : CipherKind
  keyFile : Option String
  deriving DecidableEq, Repr, Inhabited

structure ServiceSettings where
  dir : Option String
  reloadInterval : String
  deriving DecidableEq, Repr, Inhabited

structure Settings where
  device : DeviceSettings
  exchange : ExchangeSettings
  dispatch : DispatchSettings
  services : ServiceSettings
  deriving DecidableEq, Repr, Inhabited

def DeviceSettings.standard : DeviceSettings := ⟨none, defaultPort, none⟩

def ExchangeSettings.standard : ExchangeSettings := ⟨"5s", "30s", []⟩

def DispatchSettings.standard : DispatchSettings := ⟨"10s", .passThrough, none⟩

def ServiceSettings.standard : ServiceSettings := ⟨none, "10s"⟩

def Settings.standard : Settings := ⟨.standard, .standard, .standard, .standard⟩

def CipherKind.shape : Shape CipherKind := .named CipherKind.ofName? CipherKind.name

def DeviceSettings.shape : Shape DeviceSettings :=
  .record
    (.cons (defaulted "id" (.optional .text) DeviceSettings.standard.id) <|
      .cons (defaulted "listen_port" .word16 DeviceSettings.standard.listenPort) <|
      .cons (defaulted "advertise_address" (.optional .text)
        DeviceSettings.standard.advertiseAddress) .none)
    (fun (id, listenPort, advertiseAddress, ()) => ⟨id, listenPort, advertiseAddress⟩)
    (fun r => (r.id, r.listenPort, r.advertiseAddress, ()))

def ExchangeSettings.shape : Shape ExchangeSettings :=
  .record
    (.cons (defaulted "publish_interval" .text ExchangeSettings.standard.publishInterval) <|
      .cons (defaulted "liveness_window" .text ExchangeSettings.standard.livenessWindow) <|
      .cons (defaulted "peers" (.list .text) ExchangeSettings.standard.peers) .none)
    (fun (publishInterval, livenessWindow, peers, ()) => ⟨publishInterval, livenessWindow, peers⟩)
    (fun r => (r.publishInterval, r.livenessWindow, r.peers, ()))

def DispatchSettings.shape : Shape DispatchSettings :=
  .record
    (.cons (defaulted "timeout" .text DispatchSettings.standard.timeout) <|
      .cons (defaulted "cipher" CipherKind.shape DispatchSettings.standard.cipher) <|
      .cons (defaulted "key_file" (.optional .text) DispatchSettings.standard.keyFile) .none)
    (fun (timeout, cipher, keyFile, ()) => ⟨timeout, cipher, keyFile⟩)
    (fun r => (r.timeout, r.cipher, r.keyFile, ()))

def ServiceSettings.shape : Shape ServiceSettings :=
  .record
    (.cons (defaulted "dir" (.optional .text) ServiceSettings.standard.dir) <|
      .cons (defaulted "reload_interval" .text ServiceSettings.standard.reloadInterval) .none)
    (fun (dir, reloadInterval, ()) => ⟨dir, reloadInterval⟩)
    (fun r => (r.dir, r.reloadInterval, ()))

def Settings.shape : Shape Settings :=
  .record
    (.cons (defaulted "device" DeviceSettings.shape .standard) <|
      .cons (defaulted "exchange" ExchangeSettings.shape .standard) <|
      .cons (defaulted "dispatch" DispatchSettings.shape .standard) <|
      .cons (defaulted "services" ServiceSettings.shape .standard) .none)
    (fun (device, exchange, dispatch, services, ()) => ⟨device, exchange, dispatch, services⟩)
    (fun r => (r.device, r.exchange, r.dispatch, r.services, ()))

namespace Settings

def durations (c : Settings) : List (String × String) :=
  [("exchange.publish_interval", c.exchange.publishInterval),
   ("exchange.liveness_window", c.exchange.livenessWindow),
   ("dispatch.timeout", c.dispatch.timeout),
   ("services.reload_interval", c.services.reloadInterval)]

structure InvalidDuration where
  setting : String
  value : String
  deriving DecidableEq, Repr, Inhabited

def InvalidDuration.text (e : InvalidDuration) : String :=
  s!"invalid duration for {e.setting}: {Text.quoted e.value}"

def validate (c : Settings) : Option InvalidDuration :=
  (c.durations.find? fun (_, value) => (Duration.ofText? value).isNone).map
    fun (setting, value) => ⟨setting, value⟩

def publishInterval (c : Settings) : Duration :=
  (Duration.ofText? c.exchange.publishInterval).getD (.ofSecs 5)

def livenessWindow (c : Settings) : Duration :=
  (Duration.ofText? c.exchange.livenessWindow).getD (.ofSecs 30)

def dispatchTimeout (c : Settings) : Duration :=
  (Duration.ofText? c.dispatch.timeout).getD (.ofSecs 10)

def reloadInterval (c : Settings) : Duration :=
  (Duration.ofText? c.services.reloadInterval).getD (.ofSecs 10)

/-- The id of a device without one of its own: the first bytes of the digest of its host's name. -/
def derivedId (hostname : String) : String :=
  "device-" ++ Text.hexOf ((Sha256.digest (Text.bytesOf hostname)).take 8)

def deviceId (hostname : String) (c : Settings) : String :=
  match c.device.id with
  | some id =>
    let trimmed := Text.trim id.toList
    if trimmed.isEmpty then derivedId hostname else String.ofList trimmed
  | none => derivedId hostname

def advertiseAddress (c : Settings) : String :=
  c.device.advertiseAddress.getD s!"127.0.0.1:{c.device.listenPort}"

inductive LoadError
  | io (cause : SystemError)
  | toml
  | invalid (cause : InvalidDuration)
  deriving DecidableEq, Repr, Inhabited

def LoadError.text : LoadError → String
  | .io cause => cause.text
  | .toml => "TOML parse error"
  | .invalid cause => cause.text

def ofToml? (text : List Char) : Option Settings :=
  (Toml.parse? text).bind fun entries => Settings.shape.ofToml (.table entries)

def ofFile (content : Except SystemError Bytes) : Except LoadError Settings :=
  match content with
  | .error e => .error (.io e)
  | .ok bytes =>
    match Text.decode? bytes with
    | none => .error (.io .invalidUtf8)
    | some text =>
      match ofToml? text with
      | none => .error .toml
      | some c =>
        match c.validate with
        | some e => .error (.invalid e)
        | none => .ok c

def entryOf? (name : String) (value : Option String) : List (String × Toml.Item) :=
  match value with
  | some s => [(name, .text s)]
  | none => []

def sections (c : Settings) : List Toml.Section :=
  [("device", entryOf? "id" c.device.id ++ [("listen_port", .integer c.device.listenPort.toNat)] ++
      entryOf? "advertise_address" c.device.advertiseAddress),
   ("exchange", [("publish_interval", .text c.exchange.publishInterval),
      ("liveness_window", .text c.exchange.livenessWindow), ("peers", .texts c.exchange.peers)]),
   ("dispatch", [("timeout", .text c.dispatch.timeout), ("cipher", .text c.dispatch.cipher.name)] ++
      entryOf? "key_file" c.dispatch.keyFile),
   ("services", entryOf? "dir" c.services.dir ++
      [("reload_interval", .text c.services.reloadInterval)])]

def toToml (c : Settings) : String := String.ofList (Toml.Printer.document c.sections)

end Settings

end Emplace
