import DevicePower.Facade
import DevicePower.Proofs.Api.Followed

/-!
# Calls by older names

Four methods for power and the three methods on a lock have an older name besides the present one,
and a new lock is asked for by either of two names. A call by the older name does what the call by
the present name does. It ends in the same way, whatever the arguments, the state of the facade and
what the platform refuses, and leaves the same behind.

A power call by its older name says so in the log first. Nothing that a call does depends on the
log, so one statement about two hosts with the same platform carries the comparison. A call on a
lock, or for a new one, names the method as the caller did in one complaint, that about the number
of arguments. There the texts differ, and the codes do not.

## Main results

* `PowerCall.run_alike`: what a power call does is a matter of the platform and not of the log.
* `callPower_alike`, `callLock_alike`, `createLock_alike`: two names for one method.
* `olderNames_alike`: every older name, and what becomes of names that are none.
-/

namespace DevicePower.Api

/-! ## The names -/

/-- The names of the methods for power. -/
def powerNames : List String :=
  ["shutdown", "reboot", "isScreenOn", "wakeup", "suspend", "getPowerMode", "setPowerMode"]

/-- The older names of methods for power, each with the present one. -/
def olderPowerNames : List (String × String) :=
  [("shutdownDevice", "shutdown"), ("rebootDevice", "reboot"), ("wakeupDevice", "wakeup"),
   ("suspendDevice", "suspend")]

/-- The names of the methods on a lock. -/
def lockNames : List String := ["hold", "unhold", "isHolding"]

/-- The older names of methods on a lock, each with the present one. -/
def olderLockNames : List (String × String) :=
  [("lock", "hold"), ("unlock", "unhold"), ("isUsed", "isHolding")]

/-- A name stands for a method for power if and only if it is one of the eleven. -/
theorem powerMethod_named_iff {name : String} :
    (∃ m, PowerMethod.resolve name = some m) ↔
      name ∈ powerNames ++ olderPowerNames.map Prod.fst := by
  constructor
  · rintro ⟨m, hResolve⟩
    rcases PowerMethod.eq_name_of_resolve hResolve with rfl | hAlias
    · cases m <;> decide
    · cases m <;> simp only [PowerMethod.alias?, Option.some.injEq, reduceCtorEq] at hAlias <;>
        subst hAlias <;> decide
  · intro hMem
    refine Option.isSome_iff_exists.mp ?_
    revert name
    decide

/-- A name stands for a method on a lock if and only if it is one of the six. -/
theorem lockMethod_named_iff {name : String} :
    (∃ m, LockMethod.resolve name = some m) ↔ name ∈ lockNames ++ olderLockNames.map Prod.fst := by
  constructor
  · rintro ⟨m, hResolve⟩
    obtain rfl := LockMethod.eq_name_of_resolve hResolve
    cases m <;> decide
  · intro hMem
    refine Option.isSome_iff_exists.mp ?_
    revert name
    decide

/-! ## Power calls -/

namespace PowerCall

/-- An operation that makes one call ends in one way. -/
theorem asking_unique {s : Power.State} {p : Platform} {call : Call}
    {outcome outcome' : Outcome Unit} {t t' : Power.State} {q q' : Platform}
    (h : Power.State.Asking s p call outcome t q)
    (h' : Power.State.Asking s p call outcome' t' q') :
    outcome = outcome' ∧ t = t' ∧ q = q' := by
  cases h with
  | accepted hAnswer =>
    cases h' with
    | accepted => exact ⟨rfl, rfl, rfl⟩
    | failed hAnswer' => exact nomatch hAnswer.symm.trans hAnswer'
  | failed hAnswer =>
    cases h' with
    | accepted hAnswer' => exact nomatch hAnswer.symm.trans hAnswer'
    | failed hAnswer' =>
      obtain rfl := Except.error.inj (hAnswer.symm.trans hAnswer')
      exact ⟨rfl, rfl, rfl⟩

variable {h h' : Host}

/-- What a power call does is a matter of the platform and not of the log. -/
theorem run_alike (c : PowerCall) (s : Power.State) (hSame : h.platform = h'.platform) :
    (c.run s h).1 = (c.run s h').1 ∧ (c.run s h).2.1 = (c.run s h').2.1 ∧
      (c.run s h).2.2.platform = (c.run s h').2.2.platform := by
  cases c with
  | isScreenOn => exact ⟨rfl, rfl, hSame⟩
  | getPowerMode => exact ⟨rfl, rfl, hSame⟩
  | act action =>
    obtain ⟨hOutcome, hRest⟩ :=
      asking_unique (s.asking_act action h) (hSame ▸ s.asking_act action h')
    exact ⟨congrArg (Except.map fun _ => Json.Value.null) hOutcome, hRest⟩
  | setPowerMode mode =>
    obtain ⟨hOutcome, hRest⟩ := asking_unique (s.asking_setMode mode h)
      (hSame ▸ s.asking_setMode mode h')
    exact ⟨congrArg (Except.map fun _ => Json.Value.null) hOutcome, hRest⟩

/-- What a call is accepted as does not depend on the host. -/
theorem check_alike (m : PowerMethod) (a : Arguments) (h h' : Host) :
    (check m a h).1 = (check m a h').1 := by
  cases m with
  | setPowerMode =>
    unfold check
    dsimp only
    split
    · rfl
    · unfold Power.decodeMode
      dsimp only
      split <;> rfl
  | _ => rfl

/-- Two names for one method are checked alike. -/
theorem parse_alike {name name' : String} {m : PowerMethod}
    (hName : PowerMethod.resolve name = some m) (hName' : PowerMethod.resolve name' = some m)
    (values : List Json.Value) (h : Host) :
    (parse name values h).1 = (parse name' values h).1 := by
  unfold parse
  rw [hName, hName']
  exact check_alike m _ _ _

end PowerCall

/-- Two names for one method of the power part make the same call. -/
theorem callPower_alike {name name' : String} {m : PowerMethod}
    (hName : PowerMethod.resolve name = some m) (hName' : PowerMethod.resolve name' = some m)
    (form : Form) (values : List Json.Value) (s : Power.State) (h : Host) :
    (callPower form name values s h).1 = (callPower form name' values s h).1 ∧
      (callPower form name values s h).2.1 = (callPower form name' values s h).2.1 ∧
      (callPower form name values s h).2.2.platform =
        (callPower form name' values s h).2.2.platform := by
  have hChecked := PowerCall.parse_alike hName hName' values h
  have hPlatform := PowerCall.platform_parse name values h
  have hPlatform' := PowerCall.platform_parse name' values h
  unfold callPower
  generalize PowerCall.parse name values h = parsed at hChecked hPlatform ⊢
  generalize PowerCall.parse name' values h = parsed' at hChecked hPlatform' ⊢
  obtain ⟨checked, host⟩ := parsed
  obtain ⟨checked', host'⟩ := parsed'
  obtain rfl : checked = checked' := hChecked
  have hSame : host.platform = host'.platform := hPlatform.trans hPlatform'.symm
  cases checked with
  | error e => exact ⟨rfl, rfl, hSame⟩
  | ok c =>
    obtain ⟨hOutcome, hRest⟩ := c.run_alike s hSame
    exact ⟨congrArg form.deliver hOutcome, hRest⟩

/-! ## Calls about locks -/

/-- Two calls end alike: both with the same value, both refused with the same code, or both in a
crash. -/
inductive EndsAlike {α : Type} : Outcome α → Outcome α → Prop
  | ok (a : α) : EndsAlike (.ok a) (.ok a)
  | refused {e e' : Error} (hCode : e.businessCode = e'.businessCode) :
      EndsAlike (.error (.refused e)) (.error (.refused e'))
  | crashed : EndsAlike (.error .crashed) (.error .crashed)

theorem EndsAlike.refl {α : Type} (outcome : Outcome α) : EndsAlike outcome outcome := by
  cases outcome with
  | ok a => exact .ok a
  | error f =>
    cases f with
    | refused e => exact .refused rfl
    | crashed => exact .crashed

/-- Two calls end alike and leave the same behind. -/
structure Alike {α β : Type} (r r' : Outcome α × β) : Prop where
  ends : EndsAlike r.1 r'.1
  leaves : r.2 = r'.2

theorem Alike.refl {α β : Type} (r : Outcome α × β) : Alike r r := ⟨.refl r.1, rfl⟩

/-- Two checks accept the same, and each objects where the other does. -/
inductive ChecksAlike {α : Type} : Except Objection α → Except Objection α → Prop
  | ok (a : α) : ChecksAlike (.ok a) (.ok a)
  | error (o o' : Objection) : ChecksAlike (.error o) (.error o')

namespace ChecksAlike

variable {α β : Type}

theorem refl (x : Except Objection α) : ChecksAlike x x := by
  cases x with
  | ok a => exact .ok a
  | error o => exact .error o o

theorem bind {x x' : Except Objection α} {f f' : α → Except Objection β} (h : ChecksAlike x x')
    (hRest : ∀ a, ChecksAlike (f a) (f' a)) : ChecksAlike (x >>= f) (x' >>= f') := by
  cases h with
  | ok a => exact hRest a
  | error o o' => exact .error o o'

/-- The number of arguments is the same under any name of the method. -/
theorem expectCount (name name' : String) (values : List Json.Value) (expected : Nat) :
    ChecksAlike (Arguments.expectCount ⟨name, values⟩ expected)
      (Arguments.expectCount ⟨name', values⟩ expected) := by
  unfold Arguments.expectCount Arguments.count
  split
  · exact .ok ()
  · exact .error _ _

end ChecksAlike

/-- Older and present methods that are the same one. -/
inductive LockMethod.Same : LockMethod → LockMethod → Prop
  | hold : Same .lock .hold
  | unhold : Same .unlock .unhold
  | isHolding : Same .isUsed .isHolding

namespace LockCall

theorem check_alike {m m' : LockMethod} (hSame : m.Same m') (name name' : String)
    (values : List Json.Value) :
    ChecksAlike (check m ⟨name, values⟩) (check m' ⟨name', values⟩) := by
  cases hSame with
  | hold =>
    exact (ChecksAlike.expectCount name name' values 1).bind fun _ => ChecksAlike.refl _
  | unhold =>
    exact (ChecksAlike.expectCount name name' values 0).bind fun _ => ChecksAlike.refl _
  | isHolding =>
    exact (ChecksAlike.expectCount name name' values 0).bind fun _ => ChecksAlike.refl _

end LockCall

/-- Two names for one method of a lock make the same call. -/
theorem callLock_alike {name name' : String} {m m' : LockMethod}
    (hName : LockMethod.resolve name = some m) (hName' : LockMethod.resolve name' = some m')
    (hSame : m.Same m') (values : List Json.Value) (l : Lock.Running) (h : Host) :
    Alike (callLock name values l h) (callLock name' values l h) := by
  have hChecked := LockCall.check_alike hSame name name' values
  unfold callLock LockCall.parse
  rw [hName, hName']
  dsimp only
  generalize LockCall.check m ⟨name, values⟩ = checked at hChecked ⊢
  generalize LockCall.check m' ⟨name', values⟩ = checked' at hChecked ⊢
  cases hChecked with
  | ok c => exact .refl _
  | error o o' => exact ⟨.refused rfl, rfl⟩

theorem LockRequest.parse_alike (name name' : String) (values : List Json.Value) :
    ChecksAlike (LockRequest.parse name values) (LockRequest.parse name' values) :=
  (ChecksAlike.expectCount name name' values 2).bind fun _ => ChecksAlike.refl _

/-- A lock is made alike by any name under which it can be made at all. -/
theorem createLock_alike {form : Form} {name name' : String}
    (hBear : form.canBear name = form.canBear name') (values : List Json.Value)
    (r : Lock.Registry) (h : Host) :
    Alike (createLock form name values r h) (createLock form name' values r h) := by
  have hChecked := LockRequest.parse_alike name name' values
  unfold createLock
  generalize LockRequest.parse name values = checked at hChecked ⊢
  generalize LockRequest.parse name' values = checked' at hChecked ⊢
  cases hChecked with
  | ok request =>
    dsimp only
    rw [hBear]
    exact .refl _
  | error o o' => exact ⟨.refused rfl, rfl⟩

/-! ## All names -/

theorem olderPowerNames_resolve : ∀ pair ∈ olderPowerNames, ∃ m,
    PowerMethod.resolve pair.1 = some m ∧ PowerMethod.resolve pair.2 = some m := by
  intro pair hMem
  simp only [olderPowerNames, List.mem_cons, List.not_mem_nil, or_false] at hMem
  rcases hMem with rfl | rfl | rfl | rfl
  · exact ⟨.shutdown, by decide, by decide⟩
  · exact ⟨.reboot, by decide, by decide⟩
  · exact ⟨.wakeup, by decide, by decide⟩
  · exact ⟨.suspend, by decide, by decide⟩

theorem olderLockNames_resolve : ∀ pair ∈ olderLockNames, ∃ m m',
    LockMethod.resolve pair.1 = some m ∧ LockMethod.resolve pair.2 = some m' ∧ m.Same m' := by
  intro pair hMem
  simp only [olderLockNames, List.mem_cons, List.not_mem_nil, or_false] at hMem
  rcases hMem with rfl | rfl | rfl
  · exact ⟨.lock, .hold, by decide, by decide, .hold⟩
  · exact ⟨.unlock, .unhold, by decide, by decide, .unhold⟩
  · exact ⟨.isUsed, .isHolding, by decide, by decide, .isHolding⟩

/-- A name of a method for power, present or older. -/
def PowerMethod.HasName (m : PowerMethod) (name : String) : Prop :=
  m.name = name ∨ m.alias? = some name

/-- Whatever the facade is in the middle of, whatever the platform refuses or crashes in, and
whatever the arguments are: a power call by an older name ends as the call by the present name does,
with the same value or the same error, and leaves the same facade and the same record of the
platform. A call on a lock by an older name, and a call for a new lock by either name, end with the
same value or with an error of the same code, and leave the same. A name that is none is rejected as
an invalid argument and nothing changes, and no name stands for two methods. -/
theorem olderNames_alike :
    (∀ pair ∈ olderPowerNames, ∀ (f : Facade) (form : Form) (values : List Json.Value) (h : Host),
      let older := f.callPower form pair.1 values h
      let present := f.callPower form pair.2 values h
      older.1 = present.1 ∧ older.2.1 = present.2.1 ∧
        older.2.2.platform = present.2.2.platform) ∧
    (∀ pair ∈ olderLockNames, ∀ (f : Facade) (id : Nat) (values : List Json.Value) (h : Host),
      Option.Rel Alike (f.onLock? id h (callLock pair.1 values))
        (f.onLock? id h (callLock pair.2 values))) ∧
    (∀ (f : Facade) (form : Form) (values : List Json.Value) (h : Host),
      Alike (f.createLock form "create" values h)
        (f.createLock form "createRunningLock" values h)) ∧
    (∀ name, name ∉ powerNames ++ olderPowerNames.map Prod.fst →
      ∀ (f : Facade) (form : Form) (values : List Json.Value) (h : Host),
        ∃ e, e.businessCode = some Error.invalidArgumentCode ∧
          f.callPower form name values h = (.error (.refused e), f, h)) ∧
    (∀ name, name ∉ lockNames ++ olderLockNames.map Prod.fst →
      ∀ (l : Lock.Running) (values : List Json.Value) (h : Host),
        ∃ e, e.businessCode = some Error.invalidArgumentCode ∧
          callLock name values l h = (.error (.refused e), l, h)) ∧
    (∀ name, name ∈ powerNames ++ olderPowerNames.map Prod.fst ↔
      ∃ m : PowerMethod, m.HasName name) ∧
    (∀ (name : String) (m m' : PowerMethod), m.HasName name → m'.HasName name → m = m') ∧
    (∀ name, name ∈ lockNames ++ olderLockNames.map Prod.fst ↔
      ∃ m : LockMethod, m.name = name) ∧
    ∀ m m' : LockMethod, m.name = m'.name → m = m' := by
  refine ⟨?power, ?lock, ?create, ?noPower, ?noLock, ?powerNames, ?onePower, ?lockNames, ?oneLock⟩
  case power =>
    intro pair hMem f form values h
    obtain ⟨m, hOlder, hPresent⟩ := olderPowerNames_resolve pair hMem
    obtain ⟨hOutcome, hState, hPlatform⟩ := callPower_alike hOlder hPresent form values f.power h
    exact ⟨hOutcome, congrArg (fun power => { f with power }) hState, hPlatform⟩
  case lock =>
    intro pair hMem f id values h
    obtain ⟨m, m', hOlder, hPresent, hSame⟩ := olderLockNames_resolve pair hMem
    unfold Facade.onLock? Lock.Registry.onLock?
    cases f.locks.find? id with
    | none => exact .none
    | some l =>
      have hAlike := callLock_alike hOlder hPresent hSame values l h
      refine .some ⟨hAlike.ends, ?_⟩
      exact congrArg (fun left => ({ f with locks := f.locks.put left.1 }, left.2)) hAlike.leaves
  case create =>
    intro f form values h
    have hBear : form.canBear "create" = form.canBear "createRunningLock" := by
      cases form <;> decide
    have hAlike := createLock_alike hBear values f.locks h
    exact ⟨hAlike.ends, congrArg (fun left => ({ f with locks := left.1 }, left.2)) hAlike.leaves⟩
  case noPower =>
    intro name hNone f form values h
    have hResolve : PowerMethod.resolve name = none :=
      Option.eq_none_iff_forall_ne_some.mpr fun m hSome =>
        hNone (powerMethod_named_iff.mp ⟨m, hSome⟩)
    refine ⟨(Objection.unknownPowerMethod name).error, rfl, ?_⟩
    unfold Facade.callPower callPower PowerCall.parse
    rw [hResolve]
  case noLock =>
    intro name hNone l values h
    have hResolve : LockMethod.resolve name = none :=
      Option.eq_none_iff_forall_ne_some.mpr fun m hSome =>
        hNone (lockMethod_named_iff.mp ⟨m, hSome⟩)
    refine ⟨(Objection.unknownLockMethod name).error, rfl, ?_⟩
    unfold callLock LockCall.parse
    rw [hResolve]
  case powerNames =>
    intro name
    rw [← powerMethod_named_iff]
    exact exists_congr fun m => PowerCall.resolve_eq_some_iff
  case onePower =>
    intro name m m' hName hName'
    have hResolve := PowerCall.resolve_eq_some_iff.mpr hName
    exact Option.some.inj (hResolve.symm.trans (PowerCall.resolve_eq_some_iff.mpr hName'))
  case lockNames =>
    intro name
    rw [← lockMethod_named_iff]
    refine exists_congr fun m => ⟨LockMethod.eq_name_of_resolve, ?_⟩
    rintro rfl
    exact LockMethod.resolve_name m
  case oneLock =>
    intro m m' hName
    exact Option.some.inj
      ((LockMethod.resolve_name m).symm.trans (hName ▸ LockMethod.resolve_name m'))

/-- A facade with one lock. -/
def lockingFacade : Facade where
  config := {}
  power := ⟨.normal, .off⟩
  locks := ⟨2, [{ lock := { id := 1, name := "ab", kind := .background } }]⟩
  notice := Notice.Service.silent {} .phone
  started := 0

/-- A host whose platform is busy when it is to light the screen. -/
def busyHost : Host where
  platform :=
    { supported := [.background], faults := [(.wakeup, .refused (.platform (some 201) "busy"))] }
  origin := ⟨"run", "host"⟩

/-- By an older name the screen is not lit either while the platform is busy, the caller is told the
same, and a lock is held as by the present name. -/
theorem busy_by_olderName :
    ("wakeupDevice", "wakeup") ∈ olderPowerNames ∧
    (lockingFacade.callPower .future "wakeupDevice" [.text "key"] busyHost).1 =
      .error (.refused (.platform (some 201) "busy")) ∧
    (lockingFacade.callPower .future "wakeupDevice" [.text "key"] busyHost).2.1 = lockingFacade ∧
    ("lock", "hold") ∈ olderLockNames ∧
    Option.Rel Alike (lockingFacade.onLock? 1 busyHost (callLock "lock" [.nat 0]))
      (lockingFacade.onLock? 1 busyHost (callLock "hold" [.nat 0])) ∧
    "hibernate" ∉ powerNames ++ olderPowerNames.map Prod.fst ∧
    (∃ e, e.businessCode = some Error.invalidArgumentCode ∧
      lockingFacade.callPower .direct "hibernate" [] busyHost =
        (.error (.refused e), lockingFacade, busyHost)) ∧
    "release" ∉ lockNames ++ olderLockNames.map Prod.fst := by
  obtain ⟨hPower, hLock, -, hNoPower, -⟩ := olderNames_alike
  have hOlder : ("wakeupDevice", "wakeup") ∈ olderPowerNames := by decide
  have hOlderLock : ("lock", "hold") ∈ olderLockNames := by decide
  have hUnknown : "hibernate" ∉ powerNames ++ olderPowerNames.map Prod.fst := by decide
  obtain ⟨hOutcome, hFacade, -⟩ :=
    hPower _ hOlder lockingFacade .future [.text "key"] busyHost
  refine ⟨hOlder, hOutcome.trans rfl, hFacade.trans rfl, hOlderLock,
    hLock _ hOlderLock lockingFacade 1 [.nat 0] busyHost, hUnknown,
    hNoPower _ hUnknown lockingFacade .direct [] busyHost, by decide⟩

end DevicePower.Api
