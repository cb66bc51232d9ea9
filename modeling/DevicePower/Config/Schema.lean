import DevicePower.Config.Settings

/-!
# The schema of configuration documents

Editors check a configuration against a JSON schema. It describes the sections and their members,
lists the names of the fixed choices, and gives for each member the value that holds where the
document is silent. Those values are taken from the defaults of the configuration itself, so the
schema cannot disagree with the reader.
-/

namespace DevicePower.Config.Schema

/-- A property with its description, its default and further facts. -/
def property (description : String) (default : Json.Value) (facts : Json.Members) : Json.Value :=
  .object ([("description", .text description), ("default", default)] ++ facts)

/-- The type of a value. -/
def kind (name : String) : String × Json.Value := ("type", .text name)

/-- A reference to a shared definition. -/
def reference (name : String) : String × Json.Value := ("$ref", .text ("#/$defs/" ++ name))

/-- A section: an object with properties. -/
def settings (description : String) (properties : Json.Members) : Json.Value :=
  .object [("description", .text description), kind "object", ("properties", .object properties)]

/-- A choice with a name of its own and a description. -/
def choice (name description : String) : Json.Value :=
  .object [("description", .text description), kind "string", ("const", .text name)]

/-- One value out of several forms. -/
def choices (description : String) (forms : List Json.Value) : Json.Value :=
  .object [("description", .text description), ("oneOf", .list forms)]

/-- A section of the whole configuration. -/
def part (name : String) (default : Json.Value) : Json.Value :=
  .object [reference name, ("default", default)]

/-- The configuration whose members are the defaults. -/
def defaults : Config := {}

/-- The classes of device. Only the desktop class has a description. -/
def device : Json.Value :=
  choices "Device class reported by the platform."
    [.object [kind "string",
       ("enum", .list ((Device.all.filter fun d => !d.isDesktop).map fun d => .text d.name))],
     choice Device.desktop.name "Desktop-class device; platform string `2in1`."]

/-- The kinds of running lock. -/
def lockKind : Json.Value :=
  choices "Running lock kinds exposed on the API surface."
    [choice Lock.Kind.background.name "Keeps the CPU running in the background.",
     choice Lock.Kind.proximityScreenControl.name
       "Keeps the screen on/off under proximity sensor control."]

/-- The device section. -/
def deviceSettings : Json.Value :=
  settings "Device identification."
    [("device_class", property "Device class; `2in1` selects the capsule presentation."
       (.text defaults.device.name) [reference "DeviceClass"])]

/-- The notice section. -/
def noticeSettings : Json.Value :=
  settings "Inject notice settings."
    [("interface_token", property "Expected interface token on every inbound request."
       (.text defaults.notice.token) [kind "string"]),
     ("notice_id", property "Notification id of the inject notice."
       (.int defaults.notice.id.toInt) [kind "integer", ("format", .text "int32")]),
     ("label", property "Notification label of the inject notice."
       (.text defaults.notice.label) [kind "string"]),
     ("close_event", property "Common event published by the notice's close action."
       (.text defaults.notice.closeEvent) [kind "string"])]

/-- The power section. -/
def powerSettings : Json.Value :=
  settings "Power state at process start."
    [("initial_mode", property "Initial power mode code (600-603)."
       (.nat defaults.power.initialMode.toNat)
       [kind "integer", ("format", .text "uint32"), ("minimum", .nat 0)]),
     ("screen_on_at_start", property "Whether the screen is on when the process starts."
       (.bool defaults.power.screenOn) [kind "boolean"])]

/-- The section on running locks. -/
def lockSettings : Json.Value :=
  settings "Running lock settings."
    [("supported_types", property "Lock types the platform supports."
       (.list (defaults.lockKinds.map fun k => .text k.name))
       [kind "array", ("items", .object [reference "RunningLockType"])])]

/-- The schema of configuration documents. -/
def document : Json.Value :=
  .object
    [("$schema", .text "https://json-schema.org/draft/2020-12/schema"),
     ("title", .text "FacadeConfig"),
     ("description", .text "Complete facade configuration."),
     kind "object",
     ("properties", .object
       [("schema_version", .object [kind "string", ("default", .text defaults.version)]),
        ("device", part "DeviceSettings" (deviceJson defaults.device)),
        ("notice", part "NoticeSettings" defaults.notice.toJson),
        ("power", part "PowerSettings" defaults.power.toJson),
        ("running_lock", part "RunningLockSettings" (lockJson defaults.lockKinds))]),
     ("$defs", .object
       [("DeviceSettings", deviceSettings), ("DeviceClass", device),
        ("NoticeSettings", noticeSettings), ("PowerSettings", powerSettings),
        ("RunningLockSettings", lockSettings), ("RunningLockType", lockKind)])]

end DevicePower.Config.Schema
