import DevicePower.Notice.CloseEvent
import DevicePower.Notice.Command
import DevicePower.Notice.Parcel
import DevicePower.Notice.Session

/-!
# The notice service

The authorizer of input injection asks for the notice to be shown and closed. Each of its requests
is answered with one reply, whatever happens: the token is checked first, then the command, then
whether the service still stands, and only then is the request counted and carried out. A platform
that crashes in it makes the reply `failed`.

The user can close the notice too, and the service can be destroyed. Both dismiss the notice.
-/

namespace DevicePower.Notice

/-- The service: its settings, its way of showing the notice, and its sessions. -/
structure Service where
  settings : Config.NoticeSettings
  presenter : Presenter
  table : Table := {}
deriving DecidableEq

namespace Service

/-- A service that has not been announced to the platform. -/
def silent (settings : Config.NoticeSettings) (device : Device) : Service :=
  { settings, presenter := Presenter.forDevice device settings }

/-- Starts the service. Where the notice is a notification, the platform is asked to allow it; a
refusal is recorded and not held against the service. -/
def start (settings : Config.NoticeSettings) (device : Device) (h : Host) :
    Outcome Service × Host :=
  let service := silent settings device
  match service.presenter with
  | .capsule => (.ok service, h)
  | .notification _ =>
    match h.answer .requestEnable with
    | .ok () => (.ok service, h.attempt .requestEnable)
    | .error .crashed => (.error .crashed, h.attempt .requestEnable)
    | .error (.refused e) =>
      (.ok service,
        (h.attempt .requestEnable).log .warn .noticeOpenFailed .notice
          "enabling notifications failed" [("error", .text e.message)])

/-! ## Requests -/

/-- A request on the way: who sent it and what it wants. -/
structure Request where
  caller : Caller
  code : UInt32

namespace Request

/-- Writes a record about the request's connection. -/
def log (r : Request) (h : Host) (level : Log.Level) (event : Log.Event) (message : String)
    (fields : Log.Fields) : Host :=
  h.logFor (some r.caller.connectId) level event .notice message fields

/-- The field of a record that tells the command. -/
def codeField (r : Request) : String × Log.FieldValue := ("code", .integer r.code.toNat)

/-- The field of a record that tells whether the caller is a native process. -/
def nativeField (r : Request) : String × Log.FieldValue :=
  ("native_caller", .bool r.caller.isNative)

end Request

/-- What handling a request leaves. -/
structure Handled (α : Type) where
  outcome : Outcome α
  data : Parcel
  table : Table
  host : Host

/-- Answers that the service is gone. -/
def rejected (r : Request) (data : Parcel) (t : Table) (h : Host) : Handled Reply :=
  ⟨.ok .failed, data, t,
    r.log h .warn .noticeRejected "notice service destroyed, request rejected" [r.codeField]⟩

/-- Takes the caller's process id from the request, if the presenter wants one. -/
def takePid (p : Presenter) (r : Request) (data : Parcel) (t : Table) (h : Host) :
    Parcel × Table × Host :=
  if p.readsPid then
    match data.readInt with
    | (.ok pid, data) =>
      (data, t.modify r.caller.connectId fun s => s.carrying pid, h)
    | (.error f, data) =>
      (data, t,
        r.log h .warn .noticeRequest "caller pid missing from payload"
          [("error", .text f.error.message)])
  else (data, t, h)

/-- Shows the notice. A failed attempt leaves the session's status alone. -/
def openNotice (p : Presenter) (r : Request) (data : Parcel) (t : Table) (h : Host) :
    Handled Reply :=
  let pid := (t.find? r.caller.connectId).bind fun s => s.lastPid
  match p.present pid h with
  | (.ok (), h) =>
    ⟨.ok .success, data, t.modify r.caller.connectId fun s => s.become .opening,
      r.log h .info .noticeOpened "inject notice shown" []⟩
  | (.error (.refused e), h) =>
    ⟨.ok .failed, data, t,
      r.log h .error .noticeOpenFailed "send notice failed" [("error", .text e.message)]⟩
  | (.error .crashed, h) => ⟨.error .crashed, data, t, h⟩

/-- Closes the notice. A refusal is recorded and changes nothing else. -/
def closeNotice (p : Presenter) (r : Request) (data : Parcel) (t : Table) (h : Host) :
    Handled Reply :=
  let closed (h : Host) : Handled Reply :=
    ⟨.ok .success, data, t.modify r.caller.connectId fun s => s.become .serverClose,
      r.log h .info .noticeClosed "inject notice closed on request" []⟩
  match p.close h with
  | (.ok (), h) => closed h
  | (.error (.refused e), h) =>
    closed (r.log h .warn .noticeClosed "close notice reported an error"
      [("error", .text e.message)])
  | (.error .crashed, h) => ⟨.error .crashed, data, t, h⟩

/-- Carries out a command in a session that was found or made. -/
def serve (p : Presenter) (r : Request) (c : Command) (s : Session) (data : Parcel) (t : Table)
    (h : Host) : Handled Reply :=
  let t := t.modify r.caller.connectId fun s => s.counted
  if s.retired then rejected r data t h
  else
    let (data, t, h) := takePid p r data t h
    match c with
    | .openNotice => openNotice p r data t h
    | .closeNotice => closeNotice p r data t h

/-- Handles a request. -/
def handle (service : Service) (r : Request) (data : Parcel) (h : Host) : Handled Reply :=
  let t := service.table
  let h := r.log h .debug .noticeRequest "notice request received" [r.codeField, r.nativeField]
  let (token, data) := data.readText
  if token.toOption ≠ some service.settings.token then
    ⟨.ok .tokenMismatch, data, t,
      r.log h .warn .noticeTokenMismatch "interface token rejected" [r.codeField]⟩
  else
    match Command.ofCode? r.code with
    | none =>
      ⟨.ok .notSupported, data, t,
        r.log h .warn .noticeUnsupported "unsupported notice command" [r.codeField]⟩
    | some c =>
      match t.open? r.caller h.now with
      | none => rejected r data t h
      | some (s, made, t) =>
        let h := if made then r.log h .debug .sessionCreated "notice session created" [] else h
        serve service.presenter r c s data t h

/-- Handles a request and gives its reply. -/
def dispatch (service : Service) (r : Request) (data : Parcel) (h : Host) :
    Reply × Parcel × Service × Host :=
  let handled := service.handle r data h
  let service := { service with table := handled.table }
  match handled.outcome with
  | .ok reply => (reply, handled.data, service, handled.host)
  | .error _ =>
    (.failed, handled.data, service,
      r.log handled.host .error .internalError "notice handler panicked" [r.codeField])

/-- Handles a request and writes its reply to a parcel. -/
def onRequest (service : Service) (r : Request) (data reply : Parcel) (h : Host) :
    Reply × Parcel × Parcel × Service × Host :=
  let (answer, data, service, h) := service.dispatch r data h
  (answer, data, answer.write reply, service, h)

/-- Receives a request from the channel: its reply is written to a parcel. Tells whether the request
was dealt with, which every request is. -/
def receive (service : Service) (r : Request) (data reply : Parcel) (h : Host) :
    Bool × Parcel × Parcel × Service × Host :=
  let (_, data, reply, service, h) := service.onRequest r data reply h
  (true, data, reply, service, h)

/-- Notes that a caller has connected. -/
def connected (caller : Caller) (h : Host) : Host :=
  let r : Request := ⟨caller, 0⟩
  r.log h .debug .noticeRequest "caller connected" [r.nativeField]

/-! ## The user and the end -/

/-- Handles the event of the close button, and tells whether it was meant for this notice. The
notice is dismissed first, then every session learns of it. -/
def userCancel (service : Service) (event : CloseEvent) (h : Host) :
    Outcome Bool × Service × Host :=
  if !event.isFor service.settings then (.ok false, service, h)
  else
    let done (h : Host) : Outcome Bool × Service × Host :=
      (.ok true,
        { service with table := service.table.modifyLive fun s => s.become .manClose },
        h.log .info .noticeUserCancel .notice "inject notice closed by user"
          [("notice_id", .integer event.id.toInt)])
    match service.presenter.dismiss h with
    | (.ok (), h) => done h
    | (.error (.refused e), h) =>
      done (h.log .warn .noticeUserCancel .notice "dismiss after user cancel reported an error"
        [("error", .text e.message)])
    | (.error .crashed, h) => (.error .crashed, service, h)

/-- Ends the service: the table is closed, its sessions are retired, and the notice is dismissed.
Each session is recorded as gone, in the order of their connections. -/
def destroy (service : Service) (h : Host) : Outcome Unit × Service × Host :=
  let drained := service.table.sorted
  let table := (service.table.modifyLive fun s => s.retire).close.2
  let service := { service with table }
  let farewell (h : Host) : Outcome Unit × Service × Host :=
    (.ok (), service,
      drained.foldl
        (fun h s =>
          h.logFor (some s.connectId) .debug .sessionDestroyed .notice
            "notice session destroyed" [])
        h)
  match service.presenter.dismiss h with
  | (.ok (), h) => farewell h
  | (.error (.refused e), h) =>
    farewell (h.log .warn .sessionDestroyed .notice "dismiss on destroy reported an error"
      [("error", .text e.message)])
  | (.error .crashed, h) => (.error .crashed, service, h)

/-- Whether the service has ended. -/
def isDestroyed (service : Service) : Bool := service.table.closed

/-- The sessions as documents, in the order of their connections. Instants are written by
`stamp`. -/
def sessionsJson (stamp : Nat → String) (service : Service) : List Json.Value :=
  service.table.sorted.map fun s => s.toJson stamp service.presenter

end Service

end DevicePower.Notice
