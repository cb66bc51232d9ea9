import DevicePower.Notice.Service
import DevicePower.Proofs.Notice.Calls
import DevicePower.Proofs.Notice.Table

/-!
# Where each operation of the service ends

A request is rejected before it is counted, or it is counted in its caller's session and carried
out. This module says once, by `Answered`, which ends there are: what is decided on the way, and the
reply, the table and the platform that are left. What is said of requests elsewhere goes through
`onRequest_cases` and never through the bodies of the handlers. The close event and the end of the
service are told in the same way by `userCancel_cases` and `destroy_cases`.

What a counted request does to its session is one change, `Session.noted`: one more request, the
process id if it carried one, and the status if it was carried out.

## Main results

* `serve_openNotice`, `serve_closeNotice`: what carrying out the two commands leaves.
* `onRequest_cases`: the ends of handling a request.
* `userCancel_cases`, `destroy_cases`: the ends of the two operations that dismiss the notice.
-/

namespace DevicePower.Notice

/-- The text at the front of a request, if it can be read. -/
def Parcel.token? (data : Parcel) : Option String := data.readText.1.toOption

/-- The process id at the front of what follows the token, if it is wanted and can be read. -/
def Presenter.carried? (p : Presenter) (rest : Parcel) : Option Int32 :=
  if p.readsPid then rest.readInt.1.toOption else none

/-- The process id that a request carries. -/
def Presenter.pid? (p : Presenter) (data : Parcel) : Option Int32 := p.carried? data.readText.2

/-- The table once the service has ended. -/
def Table.ended (t : Table) : Table := (t.modifyLive fun s => s.retire).close.2

namespace Session

/-- The session after a request that carried this process id, or none, and made this its status, or
left it alone. -/
def noted (pid : Option Int32) (status : Option Status) (s : Session) : Session :=
  { s with
    requests := s.requests + 1
    lastPid := pid.or s.lastPid
    status := status.getD s.status }

@[simp] theorem caller_noted (pid : Option Int32) (status : Option Status) (s : Session) :
    (s.noted pid status).caller = s.caller := rfl

@[simp] theorem caller_counted (s : Session) : s.counted.caller = s.caller := rfl

@[simp] theorem caller_become (status : Status) (s : Session) :
    (s.become status).caller = s.caller := rfl

end Session

namespace Service

@[simp] theorem Request.platform_log (r : Request) (h : Host) (level : Log.Level)
    (event : Log.Event) (message : String) (fields : Log.Fields) :
    (r.log h level event message fields).platform = h.platform := rfl

@[simp] theorem Request.now_log (r : Request) (h : Host) (level : Log.Level) (event : Log.Event)
    (message : String) (fields : Log.Fields) :
    (r.log h level event message fields).now = h.now := rfl

/-- The reply to a request that was handled so. A crash is answered too. -/
def Handled.reply (x : Handled Reply) : Reply :=
  match x.outcome with
  | .ok reply => reply
  | .error _ => .failed

/-- What handling a request leaves, but for the log and the rest of the request. -/
structure Handled.Leaves (x : Handled Reply) (reply : Reply) (t : Table) (p : Platform)
    (now : Nat) : Prop where
  reply_eq : x.reply = reply
  table_eq : x.table = t
  platform_eq : x.host.platform = p
  now_eq : x.host.now = now

section Serve

variable (p : Presenter) (r : Request) (data : Parcel) (t : Table) (h : Host)

theorem openNotice_leaves {call : Call}
    (hCall : p.showing ((t.find? r.caller.connectId).bind fun s => s.lastPid) = call) :
    (openNotice p r data t h).Leaves
      (if h.platform.accepts call then .success else .failed)
      (if h.platform.accepts call then t.modify r.caller.connectId fun s => s.become .opening
        else t)
      (h.platform.attempt call) h.now := by
  unfold openNotice Presenter.present Host.attemptOne
  dsimp only
  rw [hCall]
  cases hAnswer : h.answer call with
  | ok =>
    rw [if_pos (Platform.accepts_iff.mpr hAnswer), if_pos (Platform.accepts_iff.mpr hAnswer)]
    exact ⟨rfl, rfl, rfl, rfl⟩
  | error f =>
    have hNot : ¬ h.platform.accepts call = true := by
      rw [Platform.accepts_iff]
      intro hOk
      exact nomatch hOk.symm.trans hAnswer
    rw [if_neg hNot, if_neg hNot]
    cases f <;> exact ⟨rfl, rfl, rfl, rfl⟩

theorem closeNotice_leaves :
    (closeNotice p r data t h).Leaves
      (if p.closing.any h.platform.crashes then .failed else .success)
      (if p.closing.any h.platform.crashes then t
        else t.modify r.caller.connectId fun s => s.become .serverClose)
      (h.platform.recorded (h.platform.acceptedOf p.closing)) h.now := by
  have hMakes := p.makes_close h
  have hCrashed : p.closing.any h.platform.crashes = true ↔
      (p.close h).1 = .error .crashed := by
    rw [hMakes.crashed_iff, List.any_eq_true]
  unfold closeNotice
  dsimp only
  generalize p.close h = made at hMakes hCrashed ⊢
  obtain ⟨outcome, h'⟩ := made
  match outcome with
  | .ok () =>
    rw [if_neg (by simp [hCrashed]), if_neg (by simp [hCrashed])]
    exact ⟨rfl, rfl, hMakes.platform_eq, hMakes.now_eq⟩
  | .error (.refused e) =>
    rw [if_neg (by simp [hCrashed]), if_neg (by simp [hCrashed])]
    exact ⟨rfl, rfl, hMakes.platform_eq, hMakes.now_eq⟩
  | .error .crashed =>
    rw [if_pos (hCrashed.mpr rfl), if_pos (hCrashed.mpr rfl)]
    exact ⟨rfl, rfl, hMakes.platform_eq, hMakes.now_eq⟩

/-- A request that is counted and whose process id is taken is noted in its session. -/
theorem takePid_counted :
    ∃ data' h', takePid p r data (t.modify r.caller.connectId fun s => s.counted) h =
        (data', t.modify r.caller.connectId (Session.noted (p.carried? data) none), h') ∧
      h'.platform = h.platform ∧ h'.now = h.now := by
  unfold takePid Presenter.carried?
  cases p.readsPid with
  | false => exact ⟨data, h, rfl, rfl, rfl⟩
  | true =>
    rw [if_pos rfl, if_pos rfl]
    generalize data.readInt = read
    obtain ⟨field, rest⟩ := read
    cases field with
    | error f => exact ⟨_, _, rfl, rfl, rfl⟩
    | ok carried =>
      dsimp only
      rw [Table.modify_modify t r.caller.connectId Session.caller_counted]
      exact ⟨_, _, rfl, rfl, rfl⟩

variable {s : Session}

/-- In a retired session a request is counted and nothing else. -/
theorem serve_of_retired (c : Command) (hRetired : s.retired = true) :
    (serve p r c s data t h).Leaves .failed
      (t.modify r.caller.connectId fun s => s.counted) h.platform h.now := by
  unfold serve
  rw [if_pos hRetired]
  exact ⟨rfl, rfl, rfl, rfl⟩

theorem serve_openNotice {call : Call} (hFind : t.find? r.caller.connectId = some s)
    (hRetired : s.retired = false)
    (hCall : p.showing ((p.carried? data).or s.lastPid) = call) :
    (serve p r .openNotice s data t h).Leaves
      (if h.platform.accepts call then .success else .failed)
      (t.modify r.caller.connectId
        (Session.noted (p.carried? data) (if h.platform.accepts call then some .opening else none)))
      (h.platform.attempt call) h.now := by
  obtain ⟨data', h', hTake, hPlatform, hNow⟩ := takePid_counted p r data t h
  have hShown : p.showing
      (((t.modify r.caller.connectId (Session.noted (p.carried? data) none)).find?
        r.caller.connectId).bind fun s => s.lastPid) = call := by
    rw [Table.find?_modify_self t _ (Session.caller_noted _ none), hFind]
    exact hCall
  obtain ⟨hReply, hTable, hLeft, hTime⟩ := openNotice_leaves p r data'
    (t.modify r.caller.connectId (Session.noted (p.carried? data) none)) h' hShown
  unfold serve
  rw [if_neg (by simp [hRetired]), hTake]
  dsimp only
  rw [hPlatform] at hReply hTable hLeft
  refine ⟨hReply, hTable.trans ?_, hLeft, hTime.trans hNow⟩
  split
  · exact Table.modify_modify t _ (Session.caller_noted _ none)
  · rfl

theorem serve_closeNotice (hRetired : s.retired = false) :
    (serve p r .closeNotice s data t h).Leaves
      (if p.closing.any h.platform.crashes then .failed else .success)
      (t.modify r.caller.connectId (Session.noted (p.carried? data)
        (if p.closing.any h.platform.crashes then none else some .serverClose)))
      (h.platform.recorded (h.platform.acceptedOf p.closing)) h.now := by
  obtain ⟨data', h', hTake, hPlatform, hNow⟩ := takePid_counted p r data t h
  obtain ⟨hReply, hTable, hLeft, hTime⟩ := closeNotice_leaves p r data'
    (t.modify r.caller.connectId (Session.noted (p.carried? data) none)) h'
  unfold serve
  rw [if_neg (by simp [hRetired]), hTake]
  dsimp only
  rw [hPlatform] at hReply hTable hLeft
  refine ⟨hReply, hTable.trans ?_, hLeft, hTime.trans hNow⟩
  split
  · rfl
  · exact Table.modify_modify t _ (Session.caller_noted _ none)

end Serve

/-- A request with the right token and a known command, sent to a service that still stands. -/
structure Takes (s : Service) (r : Request) (data : Parcel) (c : Command) : Prop where
  token_eq : data.token? = some s.settings.token
  command_eq : Command.ofCode? r.code = some c
  open_eq : s.table.closed = false

/-- The call that shows the notice at a request: it names the process id that the request carries,
or the one that the caller's requests carried last. -/
def showCall (s : Service) (r : Request) (data : Parcel) (now : Nat) : Call :=
  s.presenter.showing ((s.presenter.pid? data).or (s.table.session r.caller now).lastPid)

/-- Where handling a request ends: its reply, the table and the platform. -/
inductive Answered (s : Service) (r : Request) (data : Parcel) (h : Host) :
    Reply → Table → Platform → Prop
  | mismatch (hToken : data.token? ≠ some s.settings.token) :
    Answered s r data h .tokenMismatch s.table h.platform
  | unsupported (hToken : data.token? = some s.settings.token)
    (hCommand : Command.ofCode? r.code = none) :
    Answered s r data h .notSupported s.table h.platform
  | destroyed {c : Command} (hToken : data.token? = some s.settings.token)
    (hCommand : Command.ofCode? r.code = some c) (hClosed : s.table.closed = true) :
    Answered s r data h .failed s.table h.platform
  | retired {c : Command} (hTakes : s.Takes r data c)
    (hRetired : (s.table.session r.caller h.now).retired = true) :
    Answered s r data h .failed (s.table.served r.caller h.now fun s => s.counted) h.platform
  | opened (hTakes : s.Takes r data .openNotice)
    (hRetired : (s.table.session r.caller h.now).retired = false)
    {accepted : Bool} (hAccepted : h.platform.accepts (s.showCall r data h.now) = accepted) :
    Answered s r data h (if accepted then .success else .failed)
      (s.table.served r.caller h.now
        (Session.noted (s.presenter.pid? data) (if accepted then some .opening else none)))
      (h.platform.attempt (s.showCall r data h.now))
  | closed (hTakes : s.Takes r data .closeNotice)
    (hRetired : (s.table.session r.caller h.now).retired = false)
    {crashed : Bool} (hCrashed : s.presenter.closing.any h.platform.crashes = crashed) :
    Answered s r data h (if crashed then .failed else .success)
      (s.table.served r.caller h.now
        (Session.noted (s.presenter.pid? data) (if crashed then none else some .serverClose)))
      (h.platform.recorded (h.platform.acceptedOf s.presenter.closing))

variable (s : Service) (r : Request) (data reply : Parcel) (h : Host)

/-- The ends of handling a request, before its reply is written. -/
theorem handle_cases :
    ∃ answer t p, s.Answered r data h answer t p ∧
      (s.handle r data h).Leaves answer t p h.now := by
  have hRead : data.token? = data.readText.1.toOption := rfl
  have hPid : s.presenter.carried? data.readText.2 = s.presenter.pid? data := rfl
  unfold handle
  generalize data.readText = read at hRead hPid ⊢
  obtain ⟨token, rest⟩ := read
  dsimp only at hRead hPid ⊢
  rw [← hRead]
  by_cases hToken : data.token? = some s.settings.token
  · rw [if_neg (not_not_intro hToken)]
    cases hCommand : Command.ofCode? r.code with
    | none =>
      exact ⟨_, _, _, .unsupported hToken hCommand, ⟨rfl, rfl, rfl, rfl⟩⟩
    | some c =>
      dsimp only
      rw [show (r.log h .debug .noticeRequest "notice request received"
        [r.codeField, r.nativeField]).now = h.now from rfl]
      cases hClosed : s.table.closed with
      | true =>
        rw [Table.open?_of_closed hClosed]
        exact ⟨_, _, _, .destroyed hToken hCommand hClosed, ⟨rfl, rfl, rfl, rfl⟩⟩
      | false =>
        have hTakes : s.Takes r data c := ⟨hToken, hCommand, hClosed⟩
        have hFind := s.table.find?_entered_self r.caller h.now
        obtain ⟨made, hOpen⟩ := Table.open?_of_open hClosed r.caller h.now
        rw [hOpen]
        dsimp only
        -- Whether a record of a new session is written makes no difference to what follows.
        generalize hHost : (if made = true then _ else _ : Host) = h'
        have hPlatform : h'.platform = h.platform := by subst hHost; cases made <;> rfl
        have hNow : h'.now = h.now := by subst hHost; cases made <;> rfl
        cases hRetired : (s.table.session r.caller h.now).retired with
        | true =>
          have hLeft := serve_of_retired s.presenter r rest (s.table.entered r.caller h.now) h' c
            hRetired
          rw [hPlatform, hNow] at hLeft
          exact ⟨_, _, _, .retired hTakes hRetired, hLeft⟩
        | false =>
          cases c with
          | openNotice =>
            have hLeft := serve_openNotice s.presenter r rest (s.table.entered r.caller h.now) h'
              hFind hRetired rfl
            rw [hPlatform, hNow, hPid] at hLeft
            exact ⟨_, _, _, .opened hTakes hRetired rfl, hLeft⟩
          | closeNotice =>
            have hLeft := serve_closeNotice s.presenter r rest (s.table.entered r.caller h.now) h'
              hRetired
            rw [hPlatform, hNow, hPid] at hLeft
            exact ⟨_, _, _, .closed hTakes hRetired rfl, hLeft⟩
  · rw [if_pos hToken]
    exact ⟨_, _, _, .mismatch hToken, ⟨rfl, rfl, rfl, rfl⟩⟩

/-- The ends of handling a request: one reply is given and written, the sessions are all that
changes in the service, and no time passes. -/
theorem onRequest_cases :
    ∃ answer rest t h',
      s.onRequest r data reply h = (answer, rest, answer.write reply, { s with table := t }, h') ∧
      s.Answered r data h answer t h'.platform ∧ h'.now = h.now := by
  obtain ⟨answer, t, p, hAnswered, hReply, rfl, rfl, hNow⟩ := s.handle_cases r data h
  unfold onRequest dispatch
  dsimp only
  unfold Handled.reply at hReply
  cases hOutcome : (s.handle r data h).outcome with
  | ok given =>
    rw [hOutcome] at hReply
    subst hReply
    exact ⟨_, _, _, _, rfl, hAnswered, hNow⟩
  | error f =>
    rw [hOutcome] at hReply
    subst hReply
    exact ⟨_, _, _, _, rfl, hAnswered, hNow⟩

/-! ## The user and the end -/

/-- A close event that is not meant for this notice changes nothing. -/
theorem userCancel_of_not_isFor {event : CloseEvent} (hFor : event.isFor s.settings = false) :
    s.userCancel event h = (.ok false, s, h) := by
  unfold userCancel
  rw [hFor]
  rfl

/-- A close event for this notice dismisses it, and then the sessions learn of it. -/
theorem userCancel_cases {event : CloseEvent} (hFor : event.isFor s.settings = true)
    {crashed : Bool} (hCrashed : s.presenter.dismissal.any h.platform.crashes = crashed) :
    ∃ h', s.userCancel event h =
        (if crashed then .error .crashed else .ok true,
          { s with table :=
            if crashed then s.table else s.table.modifyLive fun s => s.become .manClose }, h') ∧
      h'.platform = h.platform.recorded (h.platform.acceptedOf s.presenter.dismissal) := by
  obtain ⟨hPlatform, -, hOutcome⟩ := s.presenter.makes_dismiss h
  rw [← List.any_eq_true, hCrashed] at hOutcome
  unfold userCancel
  rw [hFor]
  dsimp only [Bool.not_true, Bool.false_eq_true, if_false]
  generalize s.presenter.dismiss h = made at hPlatform hOutcome ⊢
  obtain ⟨outcome, h'⟩ := made
  match outcome with
  | .ok () =>
    obtain rfl : crashed = false := by simpa using hOutcome
    exact ⟨_, rfl, hPlatform⟩
  | .error (.refused e) =>
    obtain rfl : crashed = false := by simpa using hOutcome
    exact ⟨_, rfl, hPlatform⟩
  | .error .crashed =>
    obtain rfl : crashed = true := hOutcome.mp rfl
    exact ⟨_, rfl, hPlatform⟩

theorem platform_farewell (drained : List Session) (h : Host) :
    (drained.foldl (fun h s => h.logFor (some s.connectId) .debug .sessionDestroyed .notice
      "notice session destroyed" []) h).platform = h.platform := by
  induction drained generalizing h with
  | nil => rfl
  | cons first rest ih => exact ih _

/-- The end of the service dismisses the notice, and the table is closed whatever becomes of
that. -/
theorem destroy_cases :
    ∃ outcome h', s.destroy h = (outcome, { s with table := s.table.ended }, h') ∧
      h'.platform = h.platform.recorded (h.platform.acceptedOf s.presenter.dismissal) := by
  have hPlatform := (s.presenter.makes_dismiss h).platform_eq
  unfold destroy
  dsimp only
  generalize s.presenter.dismiss h = made at hPlatform ⊢
  obtain ⟨outcome, h'⟩ := made
  match outcome with
  | .ok () => exact ⟨_, _, rfl, (platform_farewell _ _).trans hPlatform⟩
  | .error (.refused e) => exact ⟨_, _, rfl, (platform_farewell _ _).trans hPlatform⟩
  | .error .crashed => exact ⟨_, _, rfl, hPlatform⟩

/-- The end of the service ends well unless the platform crashes in it. -/
theorem destroy_outcome :
    (s.destroy h).1 =
      if s.presenter.dismissal.any h.platform.crashes then .error .crashed else .ok () := by
  have hCrashed := (s.presenter.makes_dismiss h).crashed_iff
  rw [← List.any_eq_true] at hCrashed
  unfold destroy
  dsimp only
  generalize s.presenter.dismiss h = made at hCrashed ⊢
  obtain ⟨outcome, h'⟩ := made
  match outcome with
  | .ok () => rw [if_neg fun hAny => nomatch hCrashed.mpr hAny]
  | .error (.refused e) => rw [if_neg fun hAny => nomatch hCrashed.mpr hAny]
  | .error .crashed => rw [if_pos (hCrashed.mp rfl)]

end Service

end DevicePower.Notice
