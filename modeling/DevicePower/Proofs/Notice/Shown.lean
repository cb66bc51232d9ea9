import DevicePower.Proofs.Notice.Meeting
import DevicePower.Proofs.Notice.Usable

/-!
# What the status of a session says of the notice

All connections share one notice, and each has a status of its own. A session is told of what its
own requests did and of the user's closing, which every session learns of. It is not told of what
the requests of others did. So a session that says `opening` may be behind: another connection may
have closed the notice since.

This is all that can come between. The history tells who showed or hid the notice last, and where
nothing is made to fail that is how the notice is. A session says `opening` only if it was not its
own connection or the user who hid the notice last.

## Main results

* `Ready.isShown_after`, `Ready.isShown_run`: the notice is as it was left by the last who touched
  it.
* `told_of_opening`: what may have been done to the notice last if a session says `opening`.
* `opening_hidden_iff`: when a session says `opening` although the notice is hidden.
-/

namespace DevicePower.Notice

/-- What was done to the notice, and by whom. -/
inductive Touch where
  | opened (caller : Caller)
  | closed (caller : Caller)
  | cancelled
deriving DecidableEq

/-- Whether the notice is shown after it was touched so. -/
def Touch.shows : Touch → Bool
  | opened _ => true
  | closed _ => false
  | cancelled => false

/-- What the session of a caller is told of it: what its own requests did, and the user's
closing. -/
def Touch.told (caller : Caller) : Touch → Option Status
  | opened other => if other = caller then some .opening else none
  | closed other => if other = caller then some .serverClose else none
  | cancelled => some .manClose

/-- What a command does to the notice. -/
def Command.touch (caller : Caller) : Command → Touch
  | openNotice => .opened caller
  | closeNotice => .closed caller

/-- What an event did to the notice: a counted request that was carried out, or the user's
closing. -/
def Event.touch? (s : Service) (e : Event) : Option Touch :=
  match e.action with
  | .request r _ _ =>
    if e.isCounted s r.caller && e.answer == some .success then
      (Command.ofCode? r.code).map (Command.touch r.caller)
    else none
  | .userCancel event => if event.isFor s.settings && e.outcome.isOk then some .cancelled else none
  | _ => none

/-- What was done to the notice last. -/
def lastTouch? (s : Service) (history : List Event) : Option Touch :=
  history.findSome? (Event.touch? s)

section Touching

variable {s : Service} {r : Service.Request} {data reply : Parcel} {answer : Option Reply}
  {outcome : Outcome Unit} {time : Nat}

theorem touch?_of_takes {c : Command} (hTakes : s.Takes r data c) :
    (Event.mk (.request r data reply) answer outcome time).touch? s =
      if answer == some .success then some (c.touch r.caller) else none := by
  unfold Event.touch?
  dsimp only
  rw [isCounted_of_takes hTakes, Bool.true_and, hTakes.command_eq]
  rfl

/-- A request that is not understood does not touch the notice. -/
theorem touch?_of_misunderstood (hNot : data.token? ≠ some s.settings.token ∨
    Command.ofCode? r.code = none) :
    (Event.mk (.request r data reply) answer outcome time).touch? s = none := by
  unfold Event.touch?
  dsimp only
  rw [isCounted_of_misunderstood rfl hNot]
  rfl

end Touching

namespace Presenter

/-- The calls that close the notice on request hide it once. -/
theorem visible_closing (p : Presenter) : p.closing.filterMap Call.visible? = [false] := by
  cases p <;> rfl

end Presenter

namespace Scene

variable {settings : Config.NoticeSettings} {s : Scene}

/-- Where nothing fails, a sequence of calls of the service leaves the notice as it is meant to. -/
theorem Ready.isShown_recorded (h : Ready settings s) {cs : List Call} {shown : Bool}
    (hNotice : ∀ c ∈ cs, c.isNotice = true) (hVisible : cs.filterMap Call.visible? = [shown]) :
    (s.host.platform.recorded (s.host.platform.acceptedOf cs)).isShown = shown := by
  have hAccepts : ∀ c ∈ cs, s.host.platform.accepts c = true :=
    fun c hMem => h.accepts c (hNotice c hMem)
  have hAll : s.host.platform.acceptedOf cs = cs := by
    rw [Platform.acceptedOf_eq_filter fun c hMem => Platform.calm_of_accepts (hAccepts c hMem)]
    exact List.filter_eq_self.mpr hAccepts
  rw [hAll]
  exact Platform.isShown_recorded _ hVisible

/-- What the rest of the facade asks for leaves the notice as it is. -/
theorem isShown_of_apart {p p' : Platform} {more : List Call} (hCalls : p'.calls = p.calls ++ more)
    (hApart : ∀ c ∈ more, c.isNotice = false) : p'.isShown = p.isShown := by
  have hNone : more.filterMap Call.visible? = [] := by
    rw [List.filterMap_eq_nil_iff]
    intro c hMem
    have hOther := hApart c hMem
    cases c <;> first | rfl | exact nomatch hOther
  unfold Platform.isShown
  rw [hCalls, List.filterMap_append, hNone, List.append_nil]

/-- How the notice is after a request, if nothing fails. -/
theorem Ready.isShown_request (h : Ready settings s) {r : Service.Request} {data : Parcel}
    (reply : Parcel) {answer : Reply} {t : Table} {p : Platform}
    (hAnswered : s.service.Answered r data s.host answer t p) {outcome : Outcome Unit}
    {time : Nat} :
    p.isShown = (((Event.mk (.request r data reply) (some answer) outcome time).touch?
      s.service).map Touch.shows).getD s.host.platform.isShown := by
  cases hAnswered with
  | mismatch hToken =>
    rw [touch?_of_misunderstood (Or.inl hToken)]
    rfl
  | unsupported _ hCommand =>
    rw [touch?_of_misunderstood (Or.inr hCommand)]
    rfl
  | destroyed _ _ hClosed => exact nomatch hClosed.symm.trans h.open_eq
  | retired _ hRetired => exact nomatch hRetired.symm.trans (h.unretired.session _ _)
  | @opened hTakes _ accepted hAccepted =>
    have hNotice : (s.service.showCall r data s.host.now).isNotice = true :=
      Presenter.isNotice_showing _ _
    obtain rfl : true = accepted := (h.accepts _ hNotice).symm.trans hAccepted
    rw [touch?_of_takes hTakes, Platform.attempt_eq_recorded]
    refine h.isShown_recorded (by simpa using hNotice) ?_
    exact s.service.presenter.visible_showing _
  | @closed hTakes _ crashed hCrashed =>
    have hCalm : s.service.presenter.closing.any s.host.platform.crashes = false :=
      Platform.any_crashes_of_calm fun c hMem =>
        Platform.calm_of_accepts (h.accepts c (Presenter.isNotice_of_mem_closing hMem))
    obtain rfl : false = crashed := hCalm.symm.trans hCrashed
    rw [touch?_of_takes hTakes, h.isShown_recorded (fun c => Presenter.isNotice_of_mem_closing)
      s.service.presenter.visible_closing]
    rfl

/-- How the notice is after an action, if nothing fails: as the action leaves it, if it touches
it. -/
theorem Ready.isShown_after (h : Ready settings s) {a : Action} (hKeeps : keepsReady a = true) :
    ∃ e, (s.after a).history = e :: s.history ∧
      (s.after a).host.platform.isShown =
        ((e.touch? s.service).map Touch.shows).getD s.host.platform.isShown := by
  obtain ⟨answer, outcome, t, h', hDone, hAfter⟩ := s.after_cases a
  rw [hAfter]
  refine ⟨_, rfl, ?_⟩
  dsimp only
  cases hDone with
  | request reply hAnswered hPlatform =>
    rw [hPlatform]
    exact h.isShown_request reply hAnswered
  | ignored hFor =>
    unfold Event.touch?
    dsimp only
    rw [hFor]
    rfl
  | @userCancel event h' hFor crashed hCrashed hPlatform =>
    have hCalm : s.service.presenter.dismissal.any s.host.platform.crashes = false :=
      Platform.any_crashes_of_calm fun c hMem =>
        Platform.calm_of_accepts (h.accepts c (Presenter.isNotice_of_mem_dismissal hMem))
    obtain rfl : false = crashed := hCalm.symm.trans hCrashed
    unfold Event.touch?
    dsimp only
    rw [hFor, hPlatform, h.isShown_recorded (fun c => Presenter.isNotice_of_mem_dismissal)
      s.service.presenter.visible_dismissal]
    rfl
  | destroy => exact nomatch hKeeps
  | @aside a hAside outcome h' hCalls =>
    obtain ⟨more, hMore, hApart⟩ := hCalls
    rw [isShown_of_apart hMore hApart]
    unfold Event.touch?
    cases a with
    | request => exact nomatch hAside
    | userCancel => exact nomatch hAside
    | _ => rfl

/-- What was done to the notice is read with the settings only. -/
theorem lastTouch?_of_settings {x y : Service} (hSettings : x.settings = y.settings)
    (history : List Event) : lastTouch? x history = lastTouch? y history := by
  unfold lastTouch? Event.touch? Event.isCounted
  rw [hSettings]

/-- How the notice is in a run in which nothing fails: as the last who touched it left it. -/
theorem Ready.isShown_run {actions : List Action} (hKeeps : ∀ a ∈ actions, keepsReady a = true)
    {shown : Bool} :
    ∀ {s : Scene}, Ready settings s →
      s.host.platform.isShown = ((lastTouch? s.service s.history).map Touch.shows).getD shown →
      (s.run actions).host.platform.isShown =
        ((lastTouch? (s.run actions).service (s.run actions).history).map Touch.shows).getD
          shown := by
  induction actions with
  | nil => exact fun _ hBefore => hBefore
  | cons a rest ih =>
    intro s h hBefore
    have hFirst : keepsReady a = true := hKeeps a List.mem_cons_self
    refine ih (fun b hMem => hKeeps b (List.mem_cons_of_mem a hMem)) (h.after hFirst) ?_
    obtain ⟨e, hHistory, hShown⟩ := h.isShown_after hFirst
    have hSettings : (s.after a).service.settings = s.service.settings := (service_run [a] s).1
    rw [hShown, hBefore, hHistory, lastTouch?_of_settings hSettings]
    unfold lastTouch?
    rw [List.findSome?_cons]
    cases e.touch? s.service <;> rfl

/-! ## What a session is told -/

theorem told_touch (caller : Caller) (c : Command) :
    (c.touch caller).told caller = some c.status := by
  cases c <;> exact if_pos rfl

theorem told_touch_ne {caller other : Caller} (h : other ≠ caller) (c : Command) :
    (c.touch other).told caller = none := by
  cases c <;> exact if_neg h

/-- A session is given a status by what touches the notice, as far as it is told. -/
theorem status?_eq_told (service : Service) (caller : Caller) (e : Event) :
    e.status? service caller = (e.touch? service).bind (Touch.told caller) := by
  unfold Event.status? Event.touch?
  cases hAction : e.action with
  | request r data reply =>
    dsimp only
    by_cases hSame : r.caller = caller
    · subst hSame
      split
      · rw [Option.bind_map, Option.map_eq_bind]
        congr 1
        funext c
        exact (told_touch r.caller c).symm
      · rfl
    · rw [isCounted_ne hAction (Ne.symm hSame), Bool.false_and, if_neg Bool.false_ne_true]
      split
      · cases Command.ofCode? r.code with
        | none => rfl
        | some c => exact (told_touch_ne hSame c).symm
      · rfl
  | userCancel event =>
    dsimp only
    split <;> rfl
  | _ => rfl

/-- If a session says `opening`, then what was done to the notice last was to show it, or it is
something that the session was not told of. -/
theorem told_of_opening {service : Service} {caller : Caller} {history : List Event}
    (hOpening : (sessionOf service caller history).status = .opening) :
    ∃ touch, lastTouch? service history = some touch ∧
      (touch.told caller).getD .opening = .opening := by
  have hFound : (sinceFirst (Event.isCounted service caller) history).findSome?
      (Event.status? service caller) = some .opening := by
    unfold sessionOf at hOpening
    dsimp only at hOpening
    cases hStatus : (sinceFirst (Event.isCounted service caller) history).findSome?
        (Event.status? service caller) with
    | none => rw [hStatus] at hOpening; cases hOpening
    | some status => rw [hStatus] at hOpening; exact congrArg some hOpening
  clear hOpening
  induction history with
  | nil => cases hFound
  | cons e earlier ih =>
    unfold sinceFirst at hFound
    split at hFound
    · unfold lastTouch?
      rw [List.findSome?_cons, status?_eq_told] at hFound
      rw [List.findSome?_cons]
      cases hTouch : e.touch? service with
      | none =>
        rw [hTouch] at hFound
        exact ih hFound
      | some touch =>
        refine ⟨touch, rfl, ?_⟩
        rw [hTouch, Option.bind_some] at hFound
        cases hTold : touch.told caller with
        | none => rfl
        | some status =>
          rw [hTold] at hFound
          exact Option.some.inj hFound
    · cases hFound

/-- Someone else's request to close the notice is all that hides it from a session that says
`opening`. -/
theorem shows_eq_false_iff {caller : Caller} {touch : Touch}
    (hTold : (touch.told caller).getD .opening = .opening) :
    touch.shows = false ↔ ∃ other, other ≠ caller ∧ touch = .closed other := by
  cases touch with
  | opened other => exact ⟨nofun, fun ⟨_, _, hClosed⟩ => nomatch hClosed⟩
  | closed other =>
    refine ⟨fun _ => ⟨other, ?_, rfl⟩, fun _ => rfl⟩
    rintro rfl
    rw [show (Touch.closed other).told other = some .serverClose from if_pos rfl] at hTold
    exact nomatch hTold
  | cancelled => exact nomatch hTold

/-- In a run in which nothing is made to fail and the service is not ended, a session that says
`opening` goes with a notice that is shown, with one exception: another connection's request has
closed the notice, and nobody has touched it since. -/
theorem opening_hidden_iff {s : Scene} (h : s.Begun) (hFailing : s.host.platform.failing = [])
    (hFaults : s.host.platform.faults = []) {actions : List Action}
    (hKeeps : ∀ a ∈ actions, keepsReady a = true) {x : Session}
    (hListed : x ∈ (s.run actions).service.table.sorted) (hOpening : x.status = .opening) :
    (s.run actions).host.platform.isShown = false ↔ ∃ other, other ≠ x.caller ∧
      lastTouch? (s.run actions).service (s.run actions).history = some (.closed other) := by
  have hStart : Ready s.service.settings s := by
    refine ⟨rfl, ?_, ?_, fun c hNotice => Platform.accepts_of_faultless hFailing hFaults hNotice⟩
    · rw [h.table_eq]
    · rw [h.table_eq]
      exact fun _ _ hFind => nomatch hFind
  have hReady : Ready s.service.settings (s.run actions) := hStart.run hKeeps
  have hReachable : (s.run actions).Reachable := reachable_run (reachable_of_begun h) actions
  have hShown := hStart.isShown_run hKeeps (by
    rw [h.history_eq]
    rfl)
  obtain ⟨caller, -, rfl⟩ := (mem_sorted_iff hReachable hReady.open_eq).mp hListed
  obtain ⟨touch, hLast, hTold⟩ := told_of_opening hOpening
  rw [hShown, hLast]
  show touch.shows = false ↔ _
  rw [shows_eq_false_iff hTold]
  simp only [Option.some.injEq]
  rfl

/-- While the service stands, the session of a caller with a counted request is listed. -/
theorem listed_of_counted {s : Scene} (h : s.Begun) {actions : List Action} {caller : Caller}
    (hStands : (s.run actions).service.table.closed = false)
    (hCounted : ((s.run actions).history.any
      (Event.isCounted (s.run actions).service caller)) = true) :
    sessionOf (s.run actions).service caller (s.run actions).history ∈
      (s.run actions).service.table.sorted :=
  (mem_sorted_iff (reachable_run (reachable_of_begun h) actions) hStands).mpr
    ⟨caller, List.any_eq_true.mp hCounted, rfl⟩

/-- A request with the token of the default settings. -/
def plainRequest (pid : Int32) (code : UInt32) : Action :=
  .request ⟨⟨pid, 9⟩, code⟩ (.request "ohos.multimodalinput.IInjectNotice" none) {}

/-- One connection opens the notice, another opens and closes it, and the first opens it again. -/
def openedAgain : List Action :=
  [plainRequest 7 0, plainRequest 8 0, plainRequest 8 1, plainRequest 7 0]

/-- Its session says so, and the notice is shown. -/
theorem opened_again_is_shown :
    (∀ a ∈ openedAgain, keepsReady a = true) ∧
    ∃ x ∈ ((fresh {} .phone).run openedAgain).service.table.sorted, x.status = .opening ∧
      ((fresh {} .phone).run openedAgain).host.platform.isShown = true := by
  have hBegun : (fresh {} .phone).Begun := begun_fresh {} .phone
  have hKeeps : ∀ a ∈ openedAgain, keepsReady a = true := by decide
  have hStands : ((fresh {} .phone).run openedAgain).service.table.closed = false := by
    decide +kernel
  have hCounted : (((fresh {} .phone).run openedAgain).history.any
      (Event.isCounted ((fresh {} .phone).run openedAgain).service ⟨7, 9⟩)) = true := by
    decide +kernel
  have hOpening : (sessionOf ((fresh {} .phone).run openedAgain).service ⟨7, 9⟩
      ((fresh {} .phone).run openedAgain).history).status = .opening := by
    decide +kernel
  have hLast : lastTouch? ((fresh {} .phone).run openedAgain).service
      ((fresh {} .phone).run openedAgain).history = some (.opened ⟨7, 9⟩) := by
    decide +kernel
  have hListed := listed_of_counted hBegun hStands hCounted
  refine ⟨hKeeps, _, hListed, hOpening, ?_⟩
  rw [← Bool.not_eq_false, opening_hidden_iff hBegun rfl rfl hKeeps hListed hOpening, hLast]
  rintro ⟨other, -, hClosed⟩
  exact nomatch hClosed

/-- One connection opens the notice, and another closes it. -/
def closedByOther : List Action := [plainRequest 7 0, plainRequest 8 1]

/-- A session may say `opening` although the notice is hidden: nobody told it that another
connection has closed the notice. -/
theorem opening_may_be_hidden :
    ¬ ∀ s : Scene, s.Begun → s.host.platform.failing = [] → s.host.platform.faults = [] →
      ∀ actions : List Action, (∀ a ∈ actions, keepsReady a = true) →
        ∀ x ∈ (s.run actions).service.table.sorted, x.status = .opening →
          (s.run actions).host.platform.isShown = true := by
  intro hLaw
  have hBegun : (fresh {} .phone).Begun := begun_fresh {} .phone
  have hStands : ((fresh {} .phone).run closedByOther).service.table.closed = false := by
    decide +kernel
  have hCounted : (((fresh {} .phone).run closedByOther).history.any
      (Event.isCounted ((fresh {} .phone).run closedByOther).service ⟨7, 9⟩)) = true := by
    decide +kernel
  have hOpening : (sessionOf ((fresh {} .phone).run closedByOther).service ⟨7, 9⟩
      ((fresh {} .phone).run closedByOther).history).status = .opening := by
    decide +kernel
  have hHidden : ((fresh {} .phone).run closedByOther).host.platform.isShown = false := by
    decide +kernel
  have hListed := listed_of_counted hBegun hStands hCounted
  have hShown := hLaw _ hBegun rfl rfl closedByOther (by decide) _ hListed hOpening
  exact nomatch hHidden.symm.trans hShown

end Scene

end DevicePower.Notice
