import DevicePower.Proofs.Notice.Answer
import DevicePower.Proofs.Start

/-!
# Whether a sound configuration can be used

The notice of a facade can be reached with the token of its configuration. Three parts have to agree
on the token for this: the check of the configuration, which wants a character that is not blank,
the writer, which takes any text, and the reader, which takes no text that is too long. They agree
on all tokens but the long ones. With a token of more bytes than the reader takes, a configuration
passes its check, and yet no request with its token is ever understood.

As long as nothing is made to fail and the service is not ended, it stays ready: whatever was done
before, a request is answered by its token alone.

## Main results

* `Parcel.token?_request`: the token that was written is read unless it is too long.
* `Scene.Ready.after`: a service that is ready stays so.
* `Scene.requests_answered_by_length`: how the requests with the configured token are answered.
-/

namespace DevicePower.Notice

/-- The parcel of a request: the token, and behind it the process id if there is one. -/
def Parcel.request (token : String) (pid? : Option Int32) : Parcel :=
  match pid? with
  | none => ({} : Parcel).writeText token
  | some pid => (({} : Parcel).writeText token).writeInt pid

theorem Parcel.unread_request (token : String) (pid? : Option Int32) :
    (request token pid?).unread = textBytes token ++ pid?.toList.flatMap intBytes := by
  cases pid? with
  | none =>
    show textBytes token = _
    simp
  | some pid =>
    show textBytes token ++ intBytes pid = _
    simp

/-- The token that was written is read unless it is too long. -/
theorem Parcel.token?_request (token : String) (pid? : Option Int32) :
    (request token pid?).token? = some token ↔ (Text.Utf8.bytes token).length ≤ maxTextSize := by
  constructor
  · intro hToken
    unfold token? at hToken
    generalize hRead : (request token pid?).readText = read at hToken
    obtain ⟨field, rest⟩ := read
    cases field with
    | error fault => exact nomatch hToken
    | ok read =>
      obtain rfl : read = token := Option.some.inj hToken
      exact (readText_ok hRead).2
  · intro hSize
    exact Service.token?_of_unread hSize (unread_request token pid?)

namespace Scene

/-- Whether an action neither ends the service nor changes what the platform accepts. -/
def keepsReady : Action → Bool
  | .destroy => false
  | .change _ => false
  | _ => true

/-- Whether a service stands on a platform that accepts all its calls. -/
structure Ready (settings : Config.NoticeSettings) (s : Scene) : Prop where
  settings_eq : s.service.settings = settings
  open_eq : s.service.table.closed = false
  unretired : Unretired s.service.table
  accepts : ∀ call : Call, call.isNotice = true → s.host.platform.accepts call = true

/-- A service that has just been started is ready where nothing was made to fail. -/
theorem ready_silent {settings : Config.NoticeSettings} {device : Device} {h : Host}
    (hFailing : h.platform.failing = []) (hFaults : h.platform.faults = []) :
    Ready settings ⟨Service.silent settings device, h, []⟩ where
  settings_eq := rfl
  open_eq := rfl
  unretired _ _ hFind := nomatch hFind
  accepts _ hNotice := Platform.accepts_of_faultless hFailing hFaults hNotice

variable {settings : Config.NoticeSettings} {s : Scene}

/-- What the platform answers does not change if nobody changes it. -/
theorem answer_after {a : Action} (hKeeps : keepsReady a = true) :
    (s.after a).host.platform.answer = s.host.platform.answer := by
  have hAttempt : ∀ call, (s.host.platform.attempt call).answer = s.host.platform.answer :=
    fun call => funext fun other => Platform.answer_attempt s.host.platform call other
  cases a with
  | pass nanoseconds => rfl
  | other call apart => exact hAttempt call
  | destroy => exact nomatch hKeeps
  | change c => exact nomatch hKeeps
  | request r data reply =>
    obtain ⟨answer, outcome, t, h', hDone, hAfter⟩ := s.after_cases (.request r data reply)
    rw [hAfter]
    cases hDone with
    | request _ hAnswered hPlatform =>
      show h'.platform.answer = _
      cases hAnswered with
      | opened => rw [hPlatform, hAttempt]
      | closed => rw [hPlatform]; rfl
      | _ => rw [hPlatform]
    | aside hAside => exact nomatch hAside
  | userCancel event =>
    obtain ⟨answer, outcome, t, h', hDone, hAfter⟩ := s.after_cases (.userCancel event)
    rw [hAfter]
    cases hDone with
    | ignored => rfl
    | userCancel _ _ hPlatform =>
      show h'.platform.answer = _
      rw [hPlatform]
      rfl
    | aside hAside => exact nomatch hAside

/-- The service stands until it is ended. -/
theorem open_after (hOpen : s.service.table.closed = false) {a : Action}
    (hKeeps : keepsReady a = true) : (s.after a).service.table.closed = false := by
  obtain ⟨answer, outcome, t, h', hDone, hAfter⟩ := s.after_cases a
  rw [hAfter]
  cases hDone with
  | request reply hAnswered hPlatform =>
    cases hAnswered with
    | retired => exact (Table.closed_served _ _ _ _).trans hOpen
    | opened => exact (Table.closed_served _ _ _ _).trans hOpen
    | closed => exact (Table.closed_served _ _ _ _).trans hOpen
    | _ => exact hOpen
  | ignored => exact hOpen
  | @userCancel event h' hFor crashed hCrashed hPlatform =>
    cases crashed with
    | true => exact hOpen
    | false => exact (Table.closed_modifyLive _ _).trans hOpen
  | destroy => exact nomatch hKeeps
  | aside => exact hOpen

namespace Ready

/-- A service that is ready stays so. -/
theorem after (h : Ready settings s) {a : Action} (hKeeps : keepsReady a = true) :
    Ready settings (s.after a) where
  settings_eq := (service_run [a] s).1.trans h.settings_eq
  open_eq := open_after h.open_eq hKeeps
  unretired := unretired_after (fun _ => h.unretired) a (open_after h.open_eq hKeeps)
  accepts call hNotice := by
    unfold Platform.accepts
    rw [answer_after hKeeps]
    exact h.accepts call hNotice

theorem run {actions : List Action} (hKeeps : ∀ a ∈ actions, keepsReady a = true) :
    ∀ {s : Scene}, Ready settings s → Ready settings (s.run actions) := by
  induction actions with
  | nil => exact fun h => h
  | cons a rest ih =>
    intro s h
    have hFirst : Ready settings (s.after a) := h.after (hKeeps a List.mem_cons_self)
    exact ih (fun b hMem => hKeeps b (List.mem_cons_of_mem a hMem)) hFirst

/-- A service that is ready answers a known command by the token of the request alone. -/
theorem answer_eq (h : Ready settings s) {r : Service.Request} (hCode : r.code = 0 ∨ r.code = 1)
    (data reply : Parcel) :
    (s.service.onRequest r data reply s.host).1 =
      if data.token? = some settings.token then .success else .tokenMismatch := by
  obtain ⟨answer, rest, t, h', hRequest, hAnswered, -⟩ :=
    s.service.onRequest_cases r data reply s.host
  rw [hRequest, ← h.settings_eq]
  show answer = _
  by_cases hToken : data.token? = some s.service.settings.token
  · rw [if_pos hToken]
    rcases hCode with hZero | hOne
    · have hTakes : s.service.Takes r data .openNotice :=
        ⟨hToken, Command.ofCode?_eq_openNotice.mpr hZero, h.open_eq⟩
      have hAccepts := h.accepts (s.service.showCall r data s.host.now)
        (Presenter.isNotice_showing _ _)
      rw [(hAnswered.of_openNotice h.unretired hTakes).1, if_pos hAccepts]
    · have hTakes : s.service.Takes r data .closeNotice :=
        ⟨hToken, Command.ofCode?_eq_closeNotice.mpr hOne, h.open_eq⟩
      have hCalm : s.service.presenter.closing.any s.host.platform.crashes = false :=
        Platform.any_crashes_of_calm fun call hMem =>
          Platform.calm_of_accepts (h.accepts call (Presenter.isNotice_of_mem_closing hMem))
      rw [(hAnswered.of_closeNotice h.unretired hTakes).1, hCalm]
      rfl
  · rw [if_neg hToken]
    have hWrong := (hAnswered.of_misunderstood (Or.inl hToken)).1
    rwa [if_neg hToken] at hWrong

end Ready

/-! ## The channel of a configuration -/

/-- A facade that has just been started, seen as its notice service at work. -/
def ofFacade (f : Facade) (h : Host) : Scene := ⟨f.notice, h, []⟩

theorem ready_ofFacade {c : Config} {f : Facade} {h : Host}
    (hStarted : Facade.Started c f h.platform) : Ready c.notice (ofFacade f h) := by
  unfold ofFacade
  rw [hStarted.notice_eq]
  exact ready_silent hStarted.failing_eq hStarted.faults_eq

/-- A validated configuration starts a service, and as long as nothing is made to fail and the
service is not ended, every request with the configured token and a known command is answered by the
length of the token: it succeeds if the token can be read, and if not, the token is said not to
match. -/
theorem requests_answered_by_length {c : Config} (hValid : Config.validate c = .ok ())
    (origin : Log.Origin) :
    ∃ f h, Facade.start c (Facade.hostFor c origin) = (.ok f, h) ∧
      ∀ earlier : List Action, (∀ a ∈ earlier, keepsReady a = true) →
        ∀ (caller : Caller) (code : UInt32), code = 0 ∨ code = 1 →
        ∀ (pid? : Option Int32) (reply : Parcel),
          let s := (ofFacade f h).run earlier
          (s.service.onRequest ⟨caller, code⟩ (.request c.notice.token pid?) reply s.host).1 =
            if (Text.Utf8.bytes c.notice.token).length ≤ maxTextSize then .success
            else .tokenMismatch := by
  obtain ⟨f, h, hStart, hStarted⟩ := Facade.started_of_validate hValid origin
  refine ⟨f, h, hStart, ?_⟩
  intro earlier hKeeps caller code hCode pid? reply s
  have hReady : Ready c.notice s := (ready_ofFacade hStarted).run hKeeps
  rw [hReady.answer_eq hCode]
  simp only [Parcel.token?_request]

/-- Where all else is as the defaults say, only the token is left to check. -/
theorem validate_of_token {device : Device} {token : String}
    (h : Text.isAllBlank token = false) :
    Config.validate { device, notice := { token } } = .ok () := by
  unfold Config.validate
  dsimp only
  rw [h]
  rfl

/-- A desktop whose token is not ASCII is told to close the notice twice and succeeds. -/
theorem desktop_token_succeeds :
    let c : Config := { device := .desktop, notice := { token := "授权 ñ" } }
    Config.validate c = .ok () ∧
      ∃ f h, Facade.start c (Facade.hostFor c ⟨"run", "host"⟩) = (.ok f, h) ∧
        let s := (ofFacade f h).run [.request ⟨⟨-7, 9⟩, 1⟩ (.request "授权 ñ" (some (-1))) {}]
        (s.service.onRequest ⟨⟨7, 9⟩, 1⟩ (.request "授权 ñ" none) {} s.host).1 = .success := by
  intro c
  have hValid : Config.validate c = .ok () := validate_of_token (by decide +kernel)
  obtain ⟨f, h, hStart, hAnswers⟩ := requests_answered_by_length hValid ⟨"run", "host"⟩
  refine ⟨hValid, f, h, hStart, ?_⟩
  have hAnswer := hAnswers [.request ⟨⟨-7, 9⟩, 1⟩ (.request "授权 ñ" (some (-1))) {}]
    (by simp [keepsReady]) ⟨7, 9⟩ 1 (Or.inr rfl) none {}
  have hShort : (Text.Utf8.bytes c.notice.token).length ≤ maxTextSize := by decide +kernel
  rwa [if_pos hShort] at hAnswer

/-- A configuration whose token is one byte too long to be read. -/
def longToken : Config := { notice := { token := String.ofList (List.replicate 65537 'a') } }

theorem length_bytes_longToken : (Text.Utf8.bytes longToken.notice.token).length = 65537 := by
  have hBytes : Text.Utf8.bytes longToken.notice.token = List.replicate 65537 97 := by
    show (String.ofList (List.replicate 65537 'a')).toList.flatMap String.utf8EncodeChar = _
    rw [String.toList_ofList, List.flatMap_replicate]
    exact List.flatten_replicate_singleton
  rw [hBytes, List.length_replicate]

theorem validate_longToken : Config.validate longToken = .ok () := by
  refine validate_of_token ?_
  unfold Text.isAllBlank
  rw [String.toList_ofList, List.all_replicate]
  rfl

/-- Not every validated configuration can be used: with a token of 65537 letters, the first request
with the configured token is rejected. -/
theorem long_token_never_matches :
    ¬ ∀ c : Config, Config.validate c = .ok () → ∀ origin : Log.Origin,
      ∃ f h, Facade.start c (Facade.hostFor c origin) = (.ok f, h) ∧
        ∀ (caller : Caller) (code : UInt32), code = 0 ∨ code = 1 →
        ∀ (pid? : Option Int32) (reply : Parcel),
          (f.notice.onRequest ⟨caller, code⟩ (.request c.notice.token pid?) reply h).1 =
            .success := by
  intro hUsable
  obtain ⟨f, h, hStart, hSucceeds⟩ := hUsable longToken validate_longToken ⟨"run", "host"⟩
  obtain ⟨f', h', hStart', hStarted⟩ :=
    Facade.started_of_validate validate_longToken ⟨"run", "host"⟩
  obtain ⟨hFacade, rfl⟩ := Prod.mk.inj (hStart.symm.trans hStart')
  obtain rfl := Except.ok.inj hFacade
  have hAnswer := (ready_ofFacade hStarted).answer_eq (r := ⟨⟨7, 9⟩, 0⟩) (Or.inl rfl)
    (.request longToken.notice.token none) {}
  have hLong : ¬ (Parcel.request longToken.notice.token none).token? =
      some longToken.notice.token := by
    rw [Parcel.token?_request, length_bytes_longToken]
    decide
  rw [if_neg hLong] at hAnswer
  exact nomatch (hSucceeds ⟨7, 9⟩ 0 (Or.inl rfl) none {}).symm.trans hAnswer

end Scene

end DevicePower.Notice
