import DevicePower.Device
import DevicePower.Json.Printer
import DevicePower.Json.Reader
import DevicePower.Lock.Kind
import DevicePower.Power.Mode

/-!
# The configuration

A configuration says what device this is, how the inject notice looks, in what state the power
settings start, and which running locks the platform can hold. It is read from a JSON document in
which every section and every member may be missing, and is then as the defaults say.
-/

namespace DevicePower.Config

/-- How the inject notice is addressed and shown. -/
structure NoticeSettings where
  /-- What a request has to begin with. -/
  token : String := "ohos.multimodalinput.IInjectNotice"
  /-- The number under which the notice is published. -/
  id : Int32 := 100
  label : String := "inject notice"
  /-- The event that the notice's close button sends. -/
  closeEvent : String := "event_inject_close_notice"
deriving DecidableEq

/-- The power state at the start. -/
structure PowerSettings where
  /-- The code of the first power mode. -/
  initialMode : UInt32 := 600
  screenOn : Bool := true
deriving DecidableEq

/-- The version of the documents that are understood. -/
def knownVersion : String := "1.0.0"

end DevicePower.Config

namespace DevicePower

/-- A configuration. -/
structure Config where
  version : String := Config.knownVersion
  device : Device := .unspecified
  notice : Config.NoticeSettings := {}
  power : Config.PowerSettings := {}
  /-- The kinds of lock that the platform can hold. -/
  lockKinds : List Lock.Kind := Lock.Kind.all
deriving DecidableEq

namespace Config

/-! ## As a document -/

/-- The notice section. -/
def NoticeSettings.toJson (n : NoticeSettings) : Json.Value :=
  .object [("interface_token", .text n.token), ("notice_id", .int n.id.toInt),
    ("label", .text n.label), ("close_event", .text n.closeEvent)]

/-- The power section. -/
def PowerSettings.toJson (p : PowerSettings) : Json.Value :=
  .object [("initial_mode", .nat p.initialMode.toNat), ("screen_on_at_start", .bool p.screenOn)]

/-- The device section. -/
def deviceJson (d : Device) : Json.Value := .object [("device_class", .text d.name)]

/-- The section on running locks. -/
def lockJson (kinds : List Lock.Kind) : Json.Value :=
  .object [("supported_types", .list (kinds.map fun k => .text k.name))]

/-- A configuration as a document. -/
def toJson (c : Config) : Json.Value :=
  .object [("schema_version", .text c.version), ("device", deviceJson c.device),
    ("notice", c.notice.toJson), ("power", c.power.toJson), ("running_lock", lockJson c.lockKinds)]

/-! ## From a document -/

/-- Reads the device section. -/
def deviceDecoder : Json.Decoder Device :=
  Json.Decoder.record "DeviceSettings"
    [.withDefault "device_class" (Json.Decoder.variant Device.documentNames) fun d _ => d]
    .unspecified

/-- Reads the notice section. -/
def noticeDecoder : Json.Decoder NoticeSettings :=
  Json.Decoder.record "NoticeSettings"
    [.withDefault "interface_token" Json.Decoder.anyText fun token n => { n with token },
     .withDefault "notice_id" Json.Decoder.int32 fun id n => { n with id := Int32.ofInt id },
     .withDefault "label" Json.Decoder.anyText fun label n => { n with label },
     .withDefault "close_event" Json.Decoder.anyText fun closeEvent n => { n with closeEvent }]
    {}

/-- Reads the power section. -/
def powerDecoder : Json.Decoder PowerSettings :=
  Json.Decoder.record "PowerSettings"
    [.withDefault "initial_mode" Json.Decoder.word32
       fun code p => { p with initialMode := UInt32.ofNat code },
     .withDefault "screen_on_at_start" Json.Decoder.bool fun screenOn p => { p with screenOn }]
    {}

/-- Reads the section on running locks. -/
def lockDecoder : Json.Decoder (List Lock.Kind) :=
  Json.Decoder.record "RunningLockSettings"
    [.withDefault "supported_types"
       (Json.Decoder.list (Json.Decoder.variant Lock.Kind.documentNames)) fun kinds _ => kinds]
    Lock.Kind.all

/-- Reads a configuration. -/
def decoder : Json.Decoder Config :=
  Json.Decoder.record "FacadeConfig"
    [.withDefault "schema_version" Json.Decoder.anyText fun version c => { c with version },
     .withDefault "device" deviceDecoder fun device c => { c with device },
     .withDefault "notice" noticeDecoder fun notice c => { c with notice },
     .withDefault "power" powerDecoder fun power c => { c with power },
     .withDefault "running_lock" lockDecoder fun lockKinds c => { c with lockKinds }]
    {}

/-- The configuration that a text spells. -/
def ofText (source : String) : Except Json.ReadError Config := decoder.document source

end Config

end DevicePower
