import DevicePower.Proofs.Api.Asked
import DevicePower.Proofs.Lock.Scene
import DevicePower.Proofs.Notice.Calls
import DevicePower.Proofs.Start

/-!
# The facade follows the platform

The facade remembers the mode and whether the screen is lit, and never asks the platform for them.
What it remembers is right because it changes only with a call that the platform has accepted: the
mode is the one that was set last, and the screen is as the last call that switched it has left it.
A call that fails, for whatever reason, leaves the facade and the record of the platform as they
were.

A run is made of power calls and calls for new locks, in any form, by any name and with any
arguments, and of changes of what the platform accepts. Which ends a call has is said once, by
`Done`.

## Main results

* `PowerCall.run_cases`: the ends of a power call that has been checked.
* `Scene.after_cases`: the ends of a move.
* `Scene.calls_followed`: what the facade remembers, what each call adds to the record, and the
  codes of the calls that fail.
-/

namespace DevicePower

/-! ## What the record says -/

/-- The mode that a call sets. -/
def Call.mode? : Call → Option Power.Mode
  | .setMode m => some m
  | _ => none

/-- Whether a call lights the screen or puts it out, if it switches it. -/
def Call.lit? : Call → Option Bool
  | .wakeup _ => some true
  | .suspend => some false
  | _ => none

namespace Platform

/-- The mode that was set last. -/
def lastMode? (p : Platform) : Option Power.Mode := (p.calls.filterMap Call.mode?).getLast?

/-- How the screen was switched last. -/
def lastLit? (p : Platform) : Option Bool := (p.calls.filterMap Call.lit?).getLast?

theorem lastMode?_recorded (p : Platform) (c : Call) :
    (p.recorded [c]).lastMode? = c.mode?.or p.lastMode? := by
  unfold lastMode? recorded
  rw [List.filterMap_append, List.getLast?_append]
  cases c <;> rfl

theorem lastLit?_recorded (p : Platform) (c : Call) :
    (p.recorded [c]).lastLit? = c.lit?.or p.lastLit? := by
  unfold lastLit? recorded
  rw [List.filterMap_append, List.getLast?_append]
  cases c <;> rfl

/-- Where no fault of its own was made up, a call fails because it is switched off or cannot be
held, and has no code. -/
theorem code_of_faultless {p : Platform} {c : Call} {f : Failure} (hFaults : p.faults = [])
    (h : p.answer c = .error f) : ∃ text, f = .refused (.platform none text) := by
  have hNone : ∀ e, p.objection? c = some e → ∃ text, e = .platform none text := by
    intro e hObjects
    unfold objection? at hObjects
    cases c <;> grind
  unfold answer at h
  rw [hFaults] at h
  dsimp only [List.find?_nil] at h
  split at h
  · next e hObjects =>
    obtain ⟨text, rfl⟩ := hNone e hObjects
    exact ⟨text, (Except.error.inj h).symm⟩
  · exact nomatch h

end Platform

/-! ## Power calls -/

namespace Power.State

/-- What is remembered once the platform has accepted a call. -/
def accepted (s : State) (c : Call) : State where
  mode := c.mode?.getD s.mode
  screen := (c.lit?.map Screen.ofBool).getD s.screen

/-- How an operation ends that makes one call. -/
inductive Asking (s : State) (p : Platform) (call : Call) :
    Outcome Unit → State → Platform → Prop
  | accepted (hAnswer : p.answer call = .ok ()) :
      Asking s p call (.ok ()) (s.accepted call) (p.recorded [call])
  | failed {f : Failure} (hAnswer : p.answer call = .error f) : Asking s p call (.error f) s p

theorem asking_setMode (s : State) (m : Mode) (h : Host) :
    Asking s h.platform (.setMode m) (s.setMode m h).1 (s.setMode m h).2.1
      (s.setMode m h).2.2.platform := by
  unfold setMode
  cases hAnswer : h.answer (.setMode m) with
  | ok =>
    show Asking s h.platform (.setMode m) (.ok ()) (s.accepted (.setMode m))
      (h.platform.attempt (.setMode m))
    rw [Platform.attempt_of_ok hAnswer]
    exact .accepted hAnswer
  | error f =>
    show Asking s h.platform (.setMode m) (.error f) s (h.platform.attempt (.setMode m))
    rw [Platform.attempt_of_error hAnswer]
    exact .failed hAnswer

theorem forward_eq (a : Action) (h : Host) :
    (forward a h).1 = h.answer a.call ∧ (forward a h).2.platform = h.platform.attempt a.call := by
  unfold forward
  cases hAnswer : h.answer a.call with
  | ok => exact ⟨rfl, rfl⟩
  | error f => cases f <;> exact ⟨rfl, rfl⟩

theorem asking_act (s : State) (a : Action) (h : Host) :
    Asking s h.platform a.call (s.act a h).1 (s.act a h).2.1 (s.act a h).2.2.platform := by
  have hScreen : s.accepted a.call = { s with screen := a.screen?.getD s.screen } := by
    cases a <;> rfl
  obtain ⟨hOutcome, hPlatform⟩ :
      (s.act a h).1 = h.platform.answer a.call ∧
        (s.act a h).2.2.platform = h.platform.attempt a.call := by
    unfold act
    cases hSwitch : a.screen? with
    | none =>
      obtain ⟨hOutcome, hPlatform⟩ := forward_eq a (a.log h)
      rw [Action.platform_log] at hPlatform
      refine ⟨hOutcome.trans ?_, hPlatform⟩
      show (a.log h).platform.answer a.call = _
      rw [Action.platform_log]
    | some screen =>
      obtain ⟨hOutcome, hPlatform⟩ := forward_eq a h
      dsimp only
      generalize forward a h = made at hOutcome hPlatform ⊢
      obtain ⟨outcome, h'⟩ := made
      cases outcome with
      | ok => exact ⟨hOutcome, (Action.platform_log a h').trans hPlatform⟩
      | error f => exact ⟨hOutcome, hPlatform⟩
  rw [hPlatform]
  cases hAnswer : h.platform.answer a.call with
  | ok =>
    rw [hAnswer] at hOutcome
    rw [hOutcome, screen_act hOutcome, ← hScreen, Platform.attempt_of_ok hAnswer]
    exact .accepted hAnswer
  | error f =>
    rw [hAnswer] at hOutcome
    rw [hOutcome, act_of_error hOutcome, Platform.attempt_of_error hAnswer]
    exact .failed hAnswer

end Power.State

namespace Api

namespace PowerCall

/-- The call to the platform that a power call makes. -/
def call? : PowerCall → Option Call
  | act action => some action.call
  | setPowerMode mode => some (.setMode mode)
  | _ => none

/-- How a power call ends that has been checked. -/
inductive Ran (c : PowerCall) (s : Power.State) (p : Platform) :
    Outcome Json.Value → Power.State → Platform → Prop
  | told {v : Json.Value} (hCall : c.call? = none) : Ran c s p (.ok v) s p
  | accepted {call : Call} (hCall : c.call? = some call) (hAnswer : p.answer call = .ok ()) :
      Ran c s p (.ok .null) (s.accepted call) (p.recorded [call])
  | failed {call : Call} {f : Failure} (hCall : c.call? = some call)
      (hAnswer : p.answer call = .error f) : Ran c s p (.error f) s p

theorem ran_of_asking {c : PowerCall} {s s' : Power.State} {p p' : Platform} {call : Call}
    {outcome : Outcome Unit} (hCall : c.call? = some call)
    (hAsking : Power.State.Asking s p call outcome s' p') :
    Ran c s p (outcome.map fun _ => .null) s' p' := by
  cases hAsking with
  | accepted hAnswer => exact .accepted hCall hAnswer
  | failed hAnswer => exact .failed hCall hAnswer

/-- The ends of a power call that has been checked. -/
theorem run_cases (c : PowerCall) (s : Power.State) (h : Host) :
    Ran c s h.platform (c.run s h).1 (c.run s h).2.1 (c.run s h).2.2.platform := by
  cases c with
  | act action => exact ran_of_asking rfl (s.asking_act action h)
  | isScreenOn => exact .told rfl
  | getPowerMode => exact .told rfl
  | setPowerMode mode => exact ran_of_asking rfl (s.asking_setMode mode h)

end PowerCall

/-! ## Runs -/

/-- What happens next: a call of the programming interface, or a change of what the platform
accepts. -/
inductive Move where
  | power (form : Form) (method : String) (values : List Json.Value)
  | createLock (form : Form) (method : String) (values : List Json.Value)
  | change (c : Lock.Change)

namespace Move

/-- What a move asks for, if it is a proper one: a call to the platform, or none. -/
inductive Asks : Move → Option Call → Prop
  | power (form : Form) {method : String} {values : List Json.Value} {c : PowerCall}
      (hAsked : PowerCall.Asked method values c) : Asks (.power form method values) c.call?
  | createLock (form : Form) (method : String) {values : List Json.Value} {r : LockRequest}
      (hAsked : LockRequest.Asked values r) : Asks (.createLock form method values) none
  | change (c : Lock.Change) : Asks (.change c) none

/-- A move asks for one thing at most. -/
theorem Asks.unique {m : Move} {call? call?' : Option Call} (h : m.Asks call?)
    (h' : m.Asks call?') : call? = call?' := by
  cases h with
  | power form hAsked =>
    cases h' with
    | power _ hAsked' => rw [hAsked.unique hAsked']
  | createLock => cases h'; rfl
  | change => cases h'; rfl

/-- Whether a move makes up no fault of its own, but at most switches an operation off or on. -/
def isPlain : Move → Bool
  | .change (.inject _ _) => false
  | _ => true

end Move

/-- A facade on a host in the middle of a run. -/
structure Scene where
  facade : Facade
  host : Host

namespace Scene

/-- How a move ends and what it leaves. What a call gives is not kept. -/
def act (s : Scene) : Move → Outcome Unit × Facade × Host
  | .power form method values =>
    let (outcome, facade, host) := s.facade.callPower form method values s.host
    (outcome.map fun _ => (), facade, host)
  | .createLock form method values =>
    let (outcome, facade, host) := s.facade.createLock form method values s.host
    (outcome.map fun _ => (), facade, host)
  | .change c => (.ok (), s.facade, { s.host with platform := c.apply s.host.platform })

/-- How a move ends. -/
def outcome (s : Scene) (m : Move) : Outcome Unit := (s.act m).1

/-- The scene after a move. -/
def after (s : Scene) (m : Move) : Scene := ⟨(s.act m).2.1, (s.act m).2.2⟩

/-- The scene after some moves. -/
def run (s : Scene) (moves : List Move) : Scene := moves.foldl after s

/-- What a caller may learn of a failure: the failure, or of a crash that it was abandoned. -/
def Learns (f learned : Failure) : Prop :=
  learned = f ∨ f = .crashed ∧ learned = .refused Pending.abandoned

/-- How a move ends, and what it leaves of the facade and of the platform. -/
inductive Done (s : Scene) (m : Move) : Outcome Unit → Facade → Platform → Prop
  /-- The move is no proper one. -/
  | rejected {text : String} (hNot : ¬ ∃ call?, m.Asks call?) :
      Done s m (.error (.refused (.invalidArgument text))) s.facade s.host.platform
  /-- The platform has nothing to do with the move. -/
  | settled {locks : Lock.Registry} {p : Platform} (hAsks : m.Asks none)
      (hCalls : p.calls = s.host.platform.calls)
      (hFaults : m.isPlain = true → s.host.platform.faults = [] → p.faults = []) :
      Done s m (.ok ()) { s.facade with locks } p
  | accepted {call : Call} (hAsks : m.Asks (some call))
      (hAnswer : s.host.platform.answer call = .ok ()) :
      Done s m (.ok ()) { s.facade with power := s.facade.power.accepted call }
        (s.host.platform.recorded [call])
  | failed {call : Call} {f learned : Failure} (hAsks : m.Asks (some call))
      (hAnswer : s.host.platform.answer call = .error f) (hLearns : Learns f learned) :
      Done s m (.error learned) s.facade s.host.platform
  /-- The move cannot be made in this form. -/
  | unborne (hAsks : m.Asks none) : Done s m (.error .crashed) s.facade s.host.platform

theorem deliver_ok {α : Type} (form : Form) (a : α) : form.deliver (.ok a) = .ok a := by
  cases form <;> rfl

theorem deliver_error {α : Type} (form : Form) (f : Failure) :
    ∃ learned, form.deliver (.error f : Outcome α) = .error learned ∧ Learns f learned := by
  cases form with
  | direct => exact ⟨f, rfl, Or.inl rfl⟩
  | future => cases f with
    | refused e => exact ⟨_, rfl, Or.inl rfl⟩
    | crashed => exact ⟨_, rfl, Or.inr ⟨rfl, rfl⟩⟩
  | callback => cases f with
    | refused e => exact ⟨_, rfl, Or.inl rfl⟩
    | crashed => exact ⟨_, rfl, Or.inr ⟨rfl, rfl⟩⟩

/-- What has been said of a power call that was checked, of its end in any form. -/
theorem done_of_ran {s : Scene} {m : Move} {c : PowerCall} (hAsks : m.Asks c.call?) {form : Form}
    {outcome : Outcome Json.Value} {power : Power.State} {p : Platform}
    (hRan : c.Ran s.facade.power s.host.platform outcome power p) :
    Done s m ((form.deliver outcome).map fun _ => ()) { s.facade with power } p := by
  cases hRan with
  | told hCall =>
    rw [hCall] at hAsks
    rw [deliver_ok]
    exact .settled hAsks rfl fun _ hNone => hNone
  | accepted hCall hAnswer =>
    rw [hCall] at hAsks
    rw [deliver_ok]
    exact .accepted hAsks hAnswer
  | failed hCall hAnswer =>
    rw [hCall] at hAsks
    obtain ⟨learned, hDelivered, hLearns⟩ := deliver_error form _
    rw [hDelivered]
    exact .failed hAsks hAnswer hLearns

theorem done_power (s : Scene) (form : Form) (method : String) (values : List Json.Value) :
    Done s (.power form method values) (s.outcome (.power form method values))
      (s.after (.power form method values)).facade
      (s.after (.power form method values)).host.platform := by
  obtain ⟨checked, h, hParse⟩ : ∃ checked h, PowerCall.parse method values s.host = (checked, h) :=
    ⟨_, _, rfl⟩
  have hPlatform : h.platform = s.host.platform := by
    rw [← PowerCall.platform_parse method values s.host, hParse]
  have hParsed : ∀ c, checked = .ok c ↔ PowerCall.Asked method values c := by
    intro c
    rw [← PowerCall.parse_eq_ok_iff (h := s.host), hParse]
  unfold outcome after act Facade.callPower callPower
  dsimp only
  rw [hParse]
  cases checked with
  | error e =>
    obtain ⟨text, rfl⟩ := PowerCall.parse_invalid (congrArg Prod.fst hParse)
    dsimp only
    rw [hPlatform]
    refine .rejected ?_
    rintro ⟨_, ⟨_, hAsked⟩⟩
    exact nomatch (hParsed _).mpr hAsked
  | ok c =>
    have hRan := c.run_cases s.facade.power h
    rw [hPlatform] at hRan
    exact done_of_ran (.power form ((hParsed c).mp rfl)) hRan

theorem done_createLock (s : Scene) (form : Form) (method : String) (values : List Json.Value) :
    Done s (.createLock form method values) (s.outcome (.createLock form method values))
      (s.after (.createLock form method values)).facade
      (s.after (.createLock form method values)).host.platform := by
  unfold outcome after act Facade.createLock createLock
  dsimp only
  cases hParse : LockRequest.parse method values with
  | error o =>
    refine .rejected ?_
    rintro ⟨_, hAsks⟩
    cases hAsks with
    | createLock _ _ hAsked =>
    exact nomatch hParse.symm.trans (LockRequest.parse_eq_ok_iff.mpr hAsked)
  | ok request =>
    have hAsked := LockRequest.parse_eq_ok_iff.mp hParse
    have hAsks : (Move.createLock form method values).Asks none := .createLock form method hAsked
    dsimp only
    split
    · obtain ⟨hName, -⟩ := hAsked
      unfold Lock.Registry.create
      rw [if_neg (by simpa using hName)]
      dsimp only [Except.mapError]
      rw [deliver_ok]
      exact .settled hAsks rfl fun _ hNone => hNone
    · exact .unborne hAsks

/-- The ends of a move. -/
theorem after_cases (s : Scene) (m : Move) :
    Done s m (s.outcome m) (s.after m).facade (s.after m).host.platform := by
  cases m with
  | power form method values => exact done_power s form method values
  | createLock form method values => exact done_createLock s form method values
  | change c =>
    refine .settled (.change c) (Lock.Change.calls_apply c s.host.platform) ?_
    intro hPlain hNone
    cases c with
    | inject op f => exact nomatch hPlain
    | fail op => exact hNone
    | heal op => exact hNone
    | restore op =>
      show s.host.platform.faults.filter _ = []
      rw [hNone]
      rfl

/-! ## Following the record -/

/-- What a facade remembers is what the record says, and what its configuration says where the
record says nothing. -/
structure Follows (c : Config) (s : Scene) : Prop where
  mode_eq : s.facade.power.mode.code =
    (s.host.platform.lastMode?.map Power.Mode.code).getD c.power.initialMode.toNat
  screen_eq : s.facade.power.screen.isOn = s.host.platform.lastLit?.getD c.power.screenOn

/-- The same calls on record say the same. -/
theorem Follows.congr {c : Config} {s s' : Scene} (h : Follows c s)
    (hPower : s'.facade.power = s.facade.power)
    (hCalls : s'.host.platform.calls = s.host.platform.calls) : Follows c s' := by
  obtain ⟨hMode, hScreen⟩ := h
  unfold Platform.lastMode? at hMode
  unfold Platform.lastLit? at hScreen
  rw [← hPower, ← hCalls] at hMode hScreen
  exact ⟨hMode, hScreen⟩

/-- A call that the platform accepts is remembered as it is recorded. -/
theorem Follows.accepted {c : Config} {s s' : Scene} (h : Follows c s) {call : Call}
    (hPower : s'.facade.power = s.facade.power.accepted call)
    (hPlatform : s'.host.platform = s.host.platform.recorded [call]) : Follows c s' := by
  refine ⟨?_, ?_⟩
  · rw [hPower, hPlatform, Platform.lastMode?_recorded]
    unfold Power.State.accepted
    cases call.mode? with
    | none => exact h.mode_eq
    | some m => rfl
  · rw [hPower, hPlatform, Platform.lastLit?_recorded]
    unfold Power.State.accepted
    cases call.lit? with
    | none => exact h.screen_eq
    | some lit => exact Power.Screen.isOn_ofBool lit

/-- A move keeps the facade in step with the record. -/
theorem Follows.after {c : Config} {s : Scene} (h : Follows c s) (m : Move) :
    Follows c (s.after m) := by
  have hDone := s.after_cases m
  generalize s.outcome m = outcome at hDone
  generalize s.after m = s' at hDone ⊢
  obtain ⟨facade, host⟩ := s'
  dsimp only at hDone
  generalize hPlatform : host.platform = p at hDone
  cases hDone with
  | rejected => exact h.congr rfl (by rw [hPlatform])
  | settled hAsks hCalls => exact h.congr rfl (by rw [hPlatform]; exact hCalls)
  | accepted => exact h.accepted rfl hPlatform
  | failed => exact h.congr rfl (by rw [hPlatform])
  | unborne => exact h.congr rfl (by rw [hPlatform])

theorem Follows.run {c : Config} (moves : List Move) :
    ∀ {s : Scene}, Follows c s → Follows c (s.run moves) := by
  induction moves with
  | nil => exact fun h => h
  | cons m rest ih =>
    intro s h
    have hFirst : Follows c (s.after m) := h.after m
    exact ih hFirst

/-- What is promised of a move: a failure leaves everything as it was, a success adds just the call
that was asked for to the record, and the platform is what decides. -/
structure Keeps (s : Scene) (m : Move) : Prop where
  failed : ∀ f, s.outcome m = .error f →
    (s.after m).facade = s.facade ∧ (s.after m).host.platform = s.host.platform
  succeeded : s.outcome m = .ok () → ∃ call?, m.Asks call? ∧
    (s.after m).host.platform.calls = s.host.platform.calls ++ call?.toList
  /-- A move that is no proper one is rejected. -/
  rejected : (¬ ∃ call?, m.Asks call?) → ∃ e, s.outcome m = .error (.refused e) ∧
    e.businessCode = some Error.invalidArgumentCode
  /-- A proper call to the platform is up to the platform. -/
  decided : ∀ call, m.Asks (some call) →
    (s.outcome m = .ok () ↔ s.host.platform.accepts call = true)

theorem keeps (s : Scene) (m : Move) : Keeps s m := by
  have hDone := s.after_cases m
  generalize hOutcome : s.outcome m = outcome at hDone
  generalize hFacade : (s.after m).facade = facade at hDone
  generalize hPlatform : (s.after m).host.platform = p at hDone
  have hOk : ∀ {f : Failure}, outcome = .error f → s.outcome m ≠ .ok () := by
    rintro f rfl hOk
    exact nomatch hOk.symm.trans hOutcome
  cases hDone with
  | @rejected text hNot =>
    refine ⟨fun _ _ => ⟨hFacade, hPlatform⟩, fun h => absurd h (hOk rfl), ?_, ?_⟩
    · exact fun _ => ⟨.invalidArgument text, hOutcome, rfl⟩
    · exact fun call hAsks => absurd ⟨_, hAsks⟩ hNot
  | settled hAsks hCalls =>
    refine ⟨fun f hFailed => (nomatch hFailed.symm.trans hOutcome), ?_, ?_, ?_⟩
    · refine fun _ => ⟨none, hAsks, ?_⟩
      rw [hPlatform, hCalls]
      exact (List.append_nil _).symm
    · exact fun hNot => absurd ⟨_, hAsks⟩ hNot
    · exact fun call hAsks' => nomatch hAsks.unique hAsks'
  | @accepted call hAsks hAnswer =>
    refine ⟨fun f hFailed => (nomatch hFailed.symm.trans hOutcome), ?_, ?_, ?_⟩
    · refine fun _ => ⟨some call, hAsks, ?_⟩
      rw [hPlatform]
      rfl
    · exact fun hNot => absurd ⟨_, hAsks⟩ hNot
    · intro call' hAsks'
      obtain rfl := Option.some.inj (hAsks.unique hAsks')
      exact iff_of_true hOutcome (Platform.accepts_iff.mpr hAnswer)
  | @failed call f learned hAsks hAnswer hLearns =>
    refine ⟨fun _ _ => ⟨hFacade, hPlatform⟩, fun h => absurd h (hOk rfl), ?_, ?_⟩
    · exact fun hNot => absurd ⟨_, hAsks⟩ hNot
    · intro call' hAsks'
      obtain rfl := Option.some.inj (hAsks.unique hAsks')
      refine iff_of_false (hOk rfl) ?_
      rw [Platform.accepts_iff, hAnswer]
      exact fun h => nomatch h
  | unborne hAsks =>
    refine ⟨fun _ _ => ⟨hFacade, hPlatform⟩, fun h => absurd h (hOk rfl), ?_, ?_⟩
    · exact fun hNot => absurd ⟨_, hAsks⟩ hNot
    · exact fun call hAsks' => nomatch hAsks.unique hAsks'

end Scene

end Api

end DevicePower
