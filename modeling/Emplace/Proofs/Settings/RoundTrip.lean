import Emplace.Proofs.Toml.Documents
import Emplace.Proofs.Text.Utf8
import Emplace.Settings

namespace Emplace

open Toml (Item Bare values)

/-! ## Values of settings -/

theorem Shape.ofToml_text (s : String) : Shape.text.ofToml (.text s) = some s := rfl

theorem Shape.ofToml_texts (items : List String) :
    (Shape.list .text).ofToml (.list (items.map .text)) = some items := by
  show (items.map Toml.Value.text).mapM Shape.text.ofToml = some items
  induction items with
  | nil => rfl
  | cons s items ih =>
      rw [List.map_cons, List.mapM_cons, ofToml_text, ih]
      rfl

theorem Shape.ofToml_word16 (n : UInt16) : Shape.word16.ofToml (.integer n.toNat) = some n := by
  have range : 0 ≤ (n.toNat : Int) ∧ (n.toNat : Int) < UInt16.size := by
    have small := n.toNat_lt
    simp only [UInt16.size]
    omega
  simp only [Shape.word16, Shape.whole, if_pos range, Int.toNat_natCast, UInt16.ofNat_toNat]

theorem CipherKind.ofToml_name (kind : CipherKind) : CipherKind.shape.ofToml (.text kind.name) = some kind := by
  cases kind <;> rfl

theorem Fields.ofTable_none (lookup : String → Option Toml.Value) : Fields.none.ofTable lookup = some () := rfl

theorem Fields.ofTable_found {α β : Type} {field : Field β} {fields : Fields α} {v : Toml.Value} {b : β} {a : α}
    {lookup : String → Option Toml.Value} (found : lookup field.name = some v) (taken : field.shape.ofToml v = some b)
    (others : fields.ofTable lookup = some a) : (Fields.cons field fields).ofTable lookup = some (b, a) := by
  simp only [Fields.cons, found, taken, others]
  rfl

theorem Fields.ofTable_optional {α : Type} {name : String} {fields : Fields α} {value : Option String} {a : α}
    {lookup : String → Option Toml.Value} (found : lookup name = value.map .text)
    (others : fields.ofTable lookup = some a) :
    (Fields.cons (defaulted name (.optional .text) Option.none) fields).ofTable lookup = some (value, a) := by
  cases value with
  | none =>
      simp only [Fields.cons, defaulted, found, others, Option.map_none]
      rfl
  | some s => exact ofTable_found found (congrArg (Option.map some) (Shape.ofToml_text s)) others

/-! ## Records in TOML values -/

def Toml.Value.part? (v : Toml.Value) (place : Nat) (name : String) : Option Toml.Value :=
  match v with
  | .table entries => entries.lookup name
  | .list items => items[place]?
  | _ => none

def Shape.taken {β : Type} (shape : Shape β) (standard : β) : Option Toml.Value → Option β
  | some v => shape.ofToml v
  | none => some standard

def Fields.ofValue {α : Type} (fields : Fields α) (place : Nat) : Toml.Value → Option α
  | .table entries => fields.ofTable fun name => entries.lookup name
  | .moment => fields.ofTable fun _ => Option.none
  | .list items => fields.ofList (items.drop place)
  | _ => Option.none

theorem Shape.ofToml_record {α ρ : Type} (fields : Fields α) (make : α → ρ) (parts : ρ → α) (v : Toml.Value) :
    (Shape.record fields make parts).ofToml v = (fields.ofValue 0 v).map make := by
  cases v <;> rfl

theorem Fields.ofValue_defaulted {α β : Type} (name : String) (shape : Shape β) (standard : β) (fields : Fields α)
    (place : Nat) (v : Toml.Value) :
    (cons (defaulted name shape standard) fields).ofValue place v =
      (shape.taken standard (v.part? place name)).bind fun b =>
        (fields.ofValue (place + 1) v).bind fun a => some (b, a) := by
  cases v with
  | table entries =>
      simp only [ofValue, Toml.Value.part?, cons, defaulted]
      cases entries.lookup name <;> rfl
  | list items =>
      simp only [ofValue, Toml.Value.part?, cons, defaulted, ← List.head?_drop, ← List.tail_drop]
      cases items.drop place <;> rfl
  | moment => rfl
  | text | integer | real | flag => rfl

theorem Fields.ofValue_defaulted_eq_some_iff {α β : Type} {name : String} {shape : Shape β} {standard b : β}
    {fields : Fields α} {a : α} {place : Nat} {v : Toml.Value} :
    (cons (defaulted name shape standard) fields).ofValue place v = some (b, a) ↔
      shape.taken standard (v.part? place name) = some b ∧ fields.ofValue (place + 1) v = some a := by
  rw [ofValue_defaulted]
  simp [Option.bind_eq_some_iff]

namespace Settings

/-! ## Sections -/

theorem ofToml_device (device : DeviceSettings) :
    DeviceSettings.shape.ofToml (.table (values (entryOf? "id" device.id ++
      [("listen_port", .integer device.listenPort.toNat)] ++
      entryOf? "advertise_address" device.advertiseAddress))) = some device := by
  refine Option.map_eq_some_iff.2 ⟨(device.id, device.listenPort, device.advertiseAddress, ()), ?_, rfl⟩
  refine Fields.ofTable_optional ?_ <| Fields.ofTable_found ?_ (Shape.ofToml_word16 device.listenPort) <|
    Fields.ofTable_optional ?_ (Fields.ofTable_none _)
  all_goals
    cases device.id <;> cases device.advertiseAddress <;> simp [values, entryOf?, Item.value, defaulted, List.lookup_cons]

theorem ofToml_exchange (exchange : ExchangeSettings) :
    ExchangeSettings.shape.ofToml (.table (values [("publish_interval", .text exchange.publishInterval),
      ("liveness_window", .text exchange.livenessWindow), ("peers", .texts exchange.peers)])) = some exchange := by
  refine Option.map_eq_some_iff.2 ⟨(exchange.publishInterval, exchange.livenessWindow, exchange.peers, ()), ?_, rfl⟩
  refine Fields.ofTable_found ?_ (Shape.ofToml_text exchange.publishInterval) <|
    Fields.ofTable_found ?_ (Shape.ofToml_text exchange.livenessWindow) <|
    Fields.ofTable_found ?_ (Shape.ofToml_texts exchange.peers) (Fields.ofTable_none _)
  all_goals simp [values, Item.value, defaulted, List.lookup_cons]

theorem ofToml_dispatch (dispatch : DispatchSettings) :
    DispatchSettings.shape.ofToml (.table (values ([("timeout", .text dispatch.timeout),
      ("cipher", .text dispatch.cipher.name)] ++ entryOf? "key_file" dispatch.keyFile))) = some dispatch := by
  refine Option.map_eq_some_iff.2 ⟨(dispatch.timeout, dispatch.cipher, dispatch.keyFile, ()), ?_, rfl⟩
  refine Fields.ofTable_found ?_ (Shape.ofToml_text dispatch.timeout) <|
    Fields.ofTable_found ?_ (CipherKind.ofToml_name dispatch.cipher) <| Fields.ofTable_optional ?_ (Fields.ofTable_none _)
  all_goals cases dispatch.keyFile <;> simp [values, entryOf?, Item.value, defaulted, List.lookup_cons]

theorem ofToml_services (services : ServiceSettings) :
    ServiceSettings.shape.ofToml (.table (values (entryOf? "dir" services.dir ++
      [("reload_interval", .text services.reloadInterval)]))) = some services := by
  refine Option.map_eq_some_iff.2 ⟨(services.dir, services.reloadInterval, ()), ?_, rfl⟩
  refine Fields.ofTable_optional ?_ <| Fields.ofTable_found ?_ (Shape.ofToml_text services.reloadInterval) <|
    Fields.ofTable_none _
  all_goals cases services.dir <;> simp [values, entryOf?, Item.value, defaulted, List.lookup_cons]

theorem ofToml_sections (c : Settings) :
    Settings.shape.ofToml (.table (c.sections.map fun s => (s.1, .table (values s.2)))) = some c := by
  refine Option.map_eq_some_iff.2 ⟨(c.device, c.exchange, c.dispatch, c.services, ()), ?_, rfl⟩
  refine Fields.ofTable_found ?_ (ofToml_device c.device) <| Fields.ofTable_found ?_ (ofToml_exchange c.exchange) <|
    Fields.ofTable_found ?_ (ofToml_dispatch c.dispatch) <| Fields.ofTable_found ?_ (ofToml_services c.services) <|
    Fields.ofTable_none _
  all_goals simp [sections, defaulted, List.lookup_cons]

theorem keys_entryOf? (name : String) (value : Option String) :
    ((entryOf? name value).map Prod.fst).Sublist [name] := by
  cases value with
  | none => exact List.nil_sublist _
  | some s => exact List.Sublist.refl _

theorem fits_entryOf? {name : String} {value : Option String} {e : String × Item} (member : e ∈ entryOf? name value) :
    e.2.Fits := by
  cases value with
  | none => cases member
  | some s =>
      rw [List.mem_singleton.1 member]
      trivial

theorem plain_of_keys {name : String} {entries : List (String × Item)} (names : List String)
    (bare : Bare name ∧ (∀ key ∈ names, Bare key) ∧ names.Nodup) (keys : (entries.map Prod.fst).Sublist names)
    (fits : ∀ e ∈ entries, e.2.Fits) : Toml.Section.Plain (name, entries) where
  bare := bare.1
  keys e member := bare.2.1 e.1 (keys.subset (List.mem_map_of_mem member))
  distinct := keys.nodup bare.2.2
  fits := fits

theorem plain_device (device : DeviceSettings) :
    Toml.Section.Plain ("device", entryOf? "id" device.id ++ [("listen_port", .integer device.listenPort.toNat)] ++
      entryOf? "advertise_address" device.advertiseAddress) := by
  have port : (Item.integer device.listenPort.toNat).Fits := by
    have small := device.listenPort.toNat_lt
    simp only [Item.Fits, Toml.integerLimit]
    omega
  refine plain_of_keys ["id", "listen_port", "advertise_address"] (by decide) ?_ fun e member => ?_
  · rw [List.map_append, List.map_append]
    exact ((keys_entryOf? _ _).append (List.Sublist.refl _)).append (keys_entryOf? _ _)
  · rcases List.mem_append.1 member with front | address
    · rcases List.mem_append.1 front with id | listed
      · exact fits_entryOf? id
      · rwa [List.mem_singleton.1 listed]
    · exact fits_entryOf? address

theorem plain_exchange (exchange : ExchangeSettings) :
    Toml.Section.Plain ("exchange", [("publish_interval", .text exchange.publishInterval),
      ("liveness_window", .text exchange.livenessWindow), ("peers", .texts exchange.peers)]) :=
  plain_of_keys ["publish_interval", "liveness_window", "peers"] (by decide) (List.Sublist.refl _) (by simp [Item.Fits])

theorem plain_dispatch (dispatch : DispatchSettings) :
    Toml.Section.Plain ("dispatch", [("timeout", .text dispatch.timeout), ("cipher", .text dispatch.cipher.name)] ++
      entryOf? "key_file" dispatch.keyFile) := by
  refine plain_of_keys ["timeout", "cipher", "key_file"] (by decide) ?_ fun e member => ?_
  · rw [List.map_append]
    exact (List.Sublist.refl _).append (keys_entryOf? _ _)
  · rcases List.mem_append.1 member with listed | file
    · simp only [List.mem_cons, List.not_mem_nil, or_false] at listed
      rcases listed with rfl | rfl <;> trivial
    · exact fits_entryOf? file

theorem plain_services (services : ServiceSettings) :
    Toml.Section.Plain ("services", entryOf? "dir" services.dir ++
      [("reload_interval", .text services.reloadInterval)]) := by
  refine plain_of_keys ["dir", "reload_interval"] (by decide) ?_ fun e member => ?_
  · rw [List.map_append]
    exact (keys_entryOf? _ _).append (List.Sublist.refl _)
  · rcases List.mem_append.1 member with dir | listed
    · exact fits_entryOf? dir
    · rw [List.mem_singleton.1 listed]
      trivial

theorem sections_plain (c : Settings) : ∀ s ∈ c.sections, s.Plain := by
  intro s member
  simp only [sections, List.mem_cons, List.not_mem_nil, or_false] at member
  rcases member with rfl | rfl | rfl | rfl
  · exact plain_device c.device
  · exact plain_exchange c.exchange
  · exact plain_dispatch c.dispatch
  · exact plain_services c.services

theorem ofToml?_toToml (c : Settings) : ofToml? c.toToml.toList = some c := by
  have read := Toml.parse?_document c.sections c.sections_plain (by simp [sections])
  rw [ofToml?, toToml, String.toList_ofList, read, Option.bind_some, ofToml_sections]

/-! ## Loading -/

theorem ofFile_toToml_of_valid {c : Settings} (valid : c.validate = none) :
    ofFile (.ok (Text.bytesOf c.toToml)) = .ok c := by
  simp only [ofFile, Text.bytesOf, Text.decode?_encode, ofToml?_toToml, valid]

theorem ofFile_toToml_of_invalid {c : Settings} {e : InvalidDuration} (invalid : c.validate = some e) :
    ofFile (.ok (Text.bytesOf c.toToml)) = .error (.invalid e) := by
  simp only [ofFile, Text.bytesOf, Text.decode?_encode, ofToml?_toToml, invalid]

/-! ## Durations -/

theorem validate_eq_none_iff (c : Settings) :
    c.validate = none ↔ ∀ d ∈ c.durations, (Duration.ofText? d.2).isSome = true := by
  simp [validate, List.find?_eq_none, Option.isSome_iff_ne_none]

theorem validate_eq_some_iff (c : Settings) (e : InvalidDuration) :
    c.validate = some e ↔ Duration.ofText? e.value = none ∧
      ∃ before after, c.durations = before ++ (e.setting, e.value) :: after ∧
        ∀ d ∈ before, (Duration.ofText? d.2).isSome = true := by
  obtain ⟨setting, value⟩ := e
  have found : c.validate = some ⟨setting, value⟩ ↔
      (c.durations.find? fun d => (Duration.ofText? d.2).isNone) = some (setting, value) := by
    simp [validate, Option.map_eq_some_iff]
  rw [found, List.find?_eq_some_iff_append]
  simp [Option.isSome_iff_ne_none]

/-! ## Durations in a file -/

def written (entries : List (String × Toml.Value)) (name : String) (place : Nat) (key standard : String) :
    Option String :=
  Shape.text.taken standard ((entries.lookup name).bind (·.part? place key))

theorem taken_exchange {v : Toml.Value} {x : ExchangeSettings} (read : ExchangeSettings.shape.ofToml v = some x) :
    Shape.text.taken "5s" (v.part? 0 "publish_interval") = some x.publishInterval ∧
      Shape.text.taken "30s" (v.part? 1 "liveness_window") = some x.livenessWindow := by
  rw [ExchangeSettings.shape, Shape.ofToml_record, Option.map_eq_some_iff] at read
  obtain ⟨⟨publish, window, peers, ⟨⟩⟩, read, rfl⟩ := read
  simp only [Fields.ofValue_defaulted_eq_some_iff] at read
  exact ⟨read.1, read.2.1⟩

theorem taken_dispatch {v : Toml.Value} {x : DispatchSettings} (read : DispatchSettings.shape.ofToml v = some x) :
    Shape.text.taken "10s" (v.part? 0 "timeout") = some x.timeout := by
  rw [DispatchSettings.shape, Shape.ofToml_record, Option.map_eq_some_iff] at read
  obtain ⟨⟨timeout, cipher, file, ⟨⟩⟩, read, rfl⟩ := read
  exact (Fields.ofValue_defaulted_eq_some_iff.1 read).1

theorem taken_services {v : Toml.Value} {x : ServiceSettings} (read : ServiceSettings.shape.ofToml v = some x) :
    Shape.text.taken "10s" (v.part? 1 "reload_interval") = some x.reloadInterval := by
  rw [ServiceSettings.shape, Shape.ofToml_record, Option.map_eq_some_iff] at read
  obtain ⟨⟨dir, interval, ⟨⟩⟩, read, rfl⟩ := read
  simp only [Fields.ofValue_defaulted_eq_some_iff] at read
  exact read.2.1

theorem written_of_taken {ρ : Type} {shape : Shape ρ} {standard r : ρ} (field : ρ → String) {name key : String}
    {place : Nat} {entries : List (String × Toml.Value)}
    (part : ∀ v r, shape.ofToml v = some r → Shape.text.taken (field standard) (v.part? place key) = some (field r))
    (read : shape.taken standard (entries.lookup name) = some r) :
    written entries name place key (field standard) = some (field r) := by
  unfold written
  cases found : entries.lookup name with
  | none =>
      rw [found] at read
      cases read
      rfl
  | some v =>
      rw [found] at read
      exact part v r read

theorem written_durations {entries : List (String × Toml.Value)} {c : Settings}
    (read : Settings.shape.ofToml (.table entries) = some c) :
    written entries "exchange" 0 "publish_interval" "5s" = some c.exchange.publishInterval ∧
      written entries "exchange" 1 "liveness_window" "30s" = some c.exchange.livenessWindow ∧
      written entries "dispatch" 0 "timeout" "10s" = some c.dispatch.timeout ∧
      written entries "services" 1 "reload_interval" "10s" = some c.services.reloadInterval := by
  rw [Settings.shape, Shape.ofToml_record, Option.map_eq_some_iff] at read
  obtain ⟨⟨device, exchange, dispatch, services, ⟨⟩⟩, read, rfl⟩ := read
  simp only [Fields.ofValue_defaulted_eq_some_iff, Toml.Value.part?] at read
  obtain ⟨-, exchanged, dispatched, served, -⟩ := read
  have publish := written_of_taken ExchangeSettings.publishInterval (fun _ _ read => (taken_exchange read).1) exchanged
  have window := written_of_taken ExchangeSettings.livenessWindow (fun _ _ read => (taken_exchange read).2) exchanged
  have timeout := written_of_taken DispatchSettings.timeout (fun _ _ read => taken_dispatch read) dispatched
  have reload := written_of_taken ServiceSettings.reloadInterval (fun _ _ read => taken_services read) served
  exact ⟨publish, window, timeout, reload⟩

/-! ## The result -/

theorem ofFile_eq_ok_iff (content : Except SystemError Bytes) (c : Settings) :
    ofFile content = .ok c ↔ c.validate = none ∧ ∃ bytes text entries, content = .ok bytes ∧
      Text.decode? bytes = some text ∧ Toml.parse? text = some entries ∧
      Settings.shape.ofToml (.table entries) = some c := by
  constructor
  · intro loaded
    unfold ofFile at loaded
    split at loaded
    · cases loaded
    rename_i bytes
    split at loaded
    · cases loaded
    rename_i text decoded
    split at loaded
    · cases loaded
    rename_i read
    split at loaded
    · cases loaded
    rename_i valid
    cases loaded
    obtain ⟨entries, parsed, read⟩ := Option.bind_eq_some_iff.1 read
    exact ⟨valid, bytes, text, entries, rfl, decoded, parsed, read⟩
  · rintro ⟨valid, bytes, text, entries, rfl, decoded, parsed, read⟩
    simp only [ofFile, ofToml?, decoded, parsed, Option.bind_some, read, valid]

theorem ofText?_of_valid {c : Settings} (valid : c.validate = none) :
    Duration.ofText? c.exchange.publishInterval = some c.publishInterval ∧
      Duration.ofText? c.exchange.livenessWindow = some c.livenessWindow ∧
      Duration.ofText? c.dispatch.timeout = some c.dispatchTimeout ∧
      Duration.ofText? c.services.reloadInterval = some c.reloadInterval := by
  have readable := (validate_eq_none_iff c).1 valid
  simp only [durations, List.mem_cons, List.not_mem_nil, or_false, forall_eq_or_imp, forall_eq] at readable
  obtain ⟨publish, window, timeout, reload⟩ := readable
  have read {text : String} {standard : Duration} (readable : (Duration.ofText? text).isSome = true) :
      Duration.ofText? text = some ((Duration.ofText? text).getD standard) := by
    obtain ⟨d, eq⟩ := Option.isSome_iff_exists.1 readable
    rw [eq, Option.getD_some]
  exact ⟨read publish, read window, read timeout, read reload⟩

/-- Settings are kept by printing and loading, up to durations that cannot be read, and a loaded file has none of
those. -/
structure RoundTrip : Prop where
  kept : ∀ c : Settings, c.validate = none → ofFile (.ok (Text.bytesOf c.toToml)) = .ok c
  refused : ∀ (c : Settings) e, c.validate = some e →
    ofFile (.ok (Text.bytesOf c.toToml)) = .error (.invalid e) ∧ (LoadError.invalid e).text = e.text
  valid_iff : ∀ c : Settings, c.validate = none ↔
    (Duration.ofText? c.exchange.publishInterval).isSome = true ∧
      (Duration.ofText? c.exchange.livenessWindow).isSome = true ∧
      (Duration.ofText? c.dispatch.timeout).isSome = true ∧
      (Duration.ofText? c.services.reloadInterval).isSome = true
  first : ∀ (c : Settings) setting value, c.validate = some ⟨setting, value⟩ ↔ Duration.ofText? value = none ∧
    ∃ before after,
      [("exchange.publish_interval", c.exchange.publishInterval),
        ("exchange.liveness_window", c.exchange.livenessWindow),
        ("dispatch.timeout", c.dispatch.timeout),
        ("services.reload_interval", c.services.reloadInterval)] = before ++ (setting, value) :: after ∧
      ∀ d ∈ before, (Duration.ofText? d.2).isSome = true
  /-- What a file says of its durations is what the readings of its configuration are. -/
  loaded : ∀ content (c : Settings), ofFile content = .ok c → ∃ bytes text entries, content = .ok bytes ∧
    Text.decode? bytes = some text ∧ Toml.parse? text = some entries ∧
    Settings.shape.ofToml (.table entries) = some c ∧
    (written entries "exchange" 0 "publish_interval" "5s").bind Duration.ofText? = some c.publishInterval ∧
    (written entries "exchange" 1 "liveness_window" "30s").bind Duration.ofText? = some c.livenessWindow ∧
    (written entries "dispatch" 0 "timeout" "10s").bind Duration.ofText? = some c.dispatchTimeout ∧
    (written entries "services" 1 "reload_interval" "10s").bind Duration.ofText? = some c.reloadInterval

theorem roundTrip : RoundTrip where
  kept _ valid := ofFile_toToml_of_valid valid
  refused _ _ invalid := ⟨ofFile_toToml_of_invalid invalid, rfl⟩
  valid_iff c := by
    rw [validate_eq_none_iff]
    simp [durations]
  first c setting value := validate_eq_some_iff c ⟨setting, value⟩
  loaded content c loaded := by
    obtain ⟨valid, bytes, text, entries, content_eq, decoded, parsed, read⟩ := (ofFile_eq_ok_iff content c).1 loaded
    obtain ⟨publish, window, timeout, reload⟩ := ofText?_of_valid valid
    obtain ⟨publishText, windowText, timeoutText, reloadText⟩ := written_durations read
    refine ⟨bytes, text, entries, content_eq, decoded, parsed, read, ?_, ?_, ?_, ?_⟩
    · rw [publishText, Option.bind_some, publish]
    · rw [windowText, Option.bind_some, window]
    · rw [timeoutText, Option.bind_some, timeout]
    · rw [reloadText, Option.bind_some, reload]

end Settings

end Emplace
