import DevicePower.Proofs.Facade.Scene
import DevicePower.Proofs.Lock.Turn

/-!
# What a validated configuration promises

Three parts read a configuration: the checks look for what makes no sense in it, the facade takes
the initial state and the notice from it, and the platform the kinds of lock that it can hold. What
the checks accept is of use to the other two. The facade starts, tells the initial mode and whether
the screen is lit, and from then on holds the locks of the kinds that are listed and no others,
whatever happens in between.

The last part is an invariant of runs: a lock that is held was held before, or a hold of its kind
has just been accepted, and the platform accepts none of a kind that it cannot hold.

## Main results

* `held_after`: where a lock that is held comes from.
* `supporting_of_step`: a step leaves only locks of listed kinds held.
* `validated_works`: what is checked, what starts, and what can be held in every run.
-/

namespace DevicePower

namespace Platform

/-- Whether nothing was made to fail in an operation. -/
def Undisturbed (p : Platform) (op : Operation) : Prop :=
  op ∉ p.failing ∧ ∀ f ∈ p.faults, f.1 ≠ op

instance (p : Platform) (op : Operation) : Decidable (p.Undisturbed op) :=
  inferInstanceAs (Decidable (_ ∧ _))

/-- The error for a hold of a kind that the platform does not support. -/
def unsupported (kind : Lock.Kind) : Failure :=
  .refused (.platform none ("running lock type " ++ kind.name ++ " not supported"))

/-- How a hold ends in which nothing was made to fail. -/
theorem answer_acquireLock {p : Platform} (h : p.Undisturbed .acquireLock) (id : Nat)
    (name : String) (kind : Lock.Kind) (timeout : Nat) :
    p.answer (.acquireLock id name kind timeout) =
      if kind ∈ p.supported then .ok () else .error (unsupported kind) := by
  obtain ⟨hFailing, hFaults⟩ := h
  have hFault : (p.faults.find? fun f => f.1 == (Call.acquireLock id name kind timeout).operation) =
      none := by
    rw [List.find?_eq_none]
    exact fun f hMem hIs => hFaults f hMem (beq_iff_eq.mp hIs)
  have hOn : p.failing.contains (Call.acquireLock id name kind timeout).operation = false :=
    Bool.eq_false_iff.mpr fun hIs => hFailing (List.contains_iff_mem.mp hIs)
  unfold answer objection? supports
  simp only [hFault, hOn, List.contains_iff_mem]
  by_cases hKind : kind ∈ p.supported
  · rw [if_pos hKind, if_pos hKind]
    rfl
  · rw [if_neg hKind, if_neg hKind]
    rfl

end Platform

namespace Lock

namespace Running

variable {l : Running} {timeout : Nat} {h : Host}

/-- A hold that is not accepted fails like that. -/
theorem hold_of_error {f : Failure} (hAnswer : h.answer (l.acquireCall timeout) = .error f) :
    l.hold timeout h = (.error f, l.afterFailure f, h) := by
  rcases l.hold_cases timeout h with ⟨f', hFailed, hHold⟩ | ⟨_, _, hOk, _⟩ | ⟨hOk, _⟩
  · obtain rfl := Except.error.inj (hFailed.symm.trans hAnswer)
    exact hHold
  · exact nomatch hOk.symm.trans hAnswer
  · exact nomatch hOk.symm.trans hAnswer

/-- After a hold that is accepted the lock is held, even if the alarm cannot be set and the hold
does not succeed. -/
theorem hold_of_ok (hAnswer : h.answer (l.acquireCall timeout) = .ok ()) :
    (l.hold timeout h).2.1.isHolding h.now = true ∧
      (l.hold timeout h).2.2.platform.calls = h.platform.calls ++ [l.acquireCall timeout] ∧
      (timeout = 0 ∨ l.canBeAlarmed = true → (l.hold timeout h).1 = .ok ()) := by
  have hSeen : ∀ started, (l.holding h.now timeout started).isHolding h.now = true := by
    intro started
    rw [isHolding_holding]
    unfold millisecond
    omega
  rw [← Platform.calls_attempt_of_ok hAnswer]
  rcases l.hold_cases timeout h with ⟨f, hFailed, _⟩ | ⟨h', hHold, _, _, hMade, _⟩ |
    ⟨_, hTimeout, hName, hHold⟩
  · exact nomatch hAnswer.symm.trans hFailed
  · rw [hHold]
    exact ⟨hSeen _, congrArg Platform.calls hMade, fun _ => rfl⟩
  · rw [hHold]
    refine ⟨hSeen false, rfl, fun hAlarm => ?_⟩
    rw [hName] at hAlarm
    exact absurd hAlarm (by simp [hTimeout])

end Running

/-- A lock that is held after a turn was held before, or a hold of it has been accepted. -/
theorem held_of_turn {h : Host} {v v' : View} {a : Action} (hTurn : Turn h v a v')
    (hHeld : v'.lock.held = true) :
    v.lock.held = true ∨ ∃ timeout, h.answer (v.lock.acquireCall timeout) = .ok () := by
  cases hTurn with
  | idle _ => exact Or.inl hHeld
  | holdFailed timeout f _ => cases f <;> exact Or.inl hHeld
  | held timeout hAnswer _ => exact Or.inr ⟨timeout, hAnswer⟩
  | stranded timeout hAnswer _ _ => exact Or.inr ⟨timeout, hAnswer⟩
  | calmed _ => exact Or.inl hHeld
  | roused d _ _ => exact Or.inl hHeld
  | stale d _ _ => exact Or.inl hHeld
  -- A lock that was given up is not held, and one that could not be was held before.
  | releaseFailed f hBefore _ => exact Or.inl hBefore
  | released hBefore _ => exact Or.inl hBefore
  | expired d _ hBefore _ _ => exact Or.inl hBefore
  | abandoned d e _ hBefore _ _ => exact Or.inl hBefore
  | wakeCrashed d _ hBefore _ _ => exact Or.inl hBefore

/-- A lock that is held after an action was held before, or a hold of its kind has been accepted. -/
theorem Scene.held_after {s : Scene} {a : Action} {id : Nat} {l : Running}
    (hLock : (s.after a).lock? id = some l) (hHeld : l.held = true) :
    (∃ before, s.lock? id = some before ∧ before.held = true ∧ before.kind = l.kind) ∨
      ∃ name timeout, s.host.answer (.acquireLock id name l.kind timeout) = .ok () := by
  have hView := view?_of_lock? hLock
  by_cases hDrop : a = .drop id
  · subst hDrop
    have hBefore := lock?_of_view? (view?_after_drop hView)
    exact Or.inl ⟨l, hBefore, hHeld, rfl⟩
  · cases hBefore : s.lock? id with
    | none =>
      obtain ⟨-, name, kind, -, rfl⟩ := made_of_lock?_eq_none hBefore hLock
      exact nomatch hHeld
    | some before =>
      obtain ⟨v', hTaken, hTurn⟩ := turn_of_view? (view?_of_lock? hBefore) hDrop
      obtain rfl : v' = _ := Option.some.inj (hTaken.symm.trans hView)
      have hKind : l.kind = before.kind := (named_of_turn hTurn).2
      rcases held_of_turn hTurn hHeld with hWas | ⟨timeout, hAnswer⟩
      · exact Or.inl ⟨before, rfl, hWas, hKind.symm⟩
      · obtain rfl : before.id = id := id_of_lock? hBefore
        exact Or.inr ⟨before.name, timeout, hKind ▸ hAnswer⟩

end Lock

namespace Facade

namespace Scene

/-! ## Only locks of listed kinds are held -/

/-- The platform can hold the kinds of a list. Only locks of these kinds are held, and it has
accepted holds of no others. -/
structure Supporting (kinds : List Lock.Kind) (s : Scene) : Prop where
  supported_eq : s.host.platform.supported = kinds
  kind_of_held : ∀ id l, s.facade.locks.find? id = some l → l.held = true → l.kind ∈ kinds
  kind_of_recorded : ∀ id name kind timeout,
    Call.acquireLock id name kind timeout ∈ s.host.platform.calls → kind ∈ kinds

variable {kinds : List Lock.Kind} {s t : Scene}

/-- A hold that is accepted is one of a listed kind. -/
theorem Supporting.kind_of_answer (h : Supporting kinds s) {id timeout : Nat} {name : String}
    {kind : Lock.Kind} (hAnswer : s.host.answer (.acquireLock id name kind timeout) = .ok ()) :
    kind ∈ kinds := by
  rw [← h.supported_eq]
  refine Decidable.byContradiction fun hUnlisted => ?_
  exact Platform.answer_acquireLock_ne_ok hUnlisted id name timeout hAnswer

theorem Supporting.free (h : Supporting kinds s) {id : Nat} {l : Lock.Running}
    (hLock : s.facade.locks.find? id = some l) (hUnlisted : l.kind ∉ kinds) : l.held = false :=
  Bool.eq_false_iff.mpr fun hHeld => hUnlisted (h.kind_of_held id l hLock hHeld)

theorem Supporting.kind_of_held_after (h : Supporting kinds s) (a : Lock.Action) {id : Nat}
    {l : Lock.Running} (hLock : (s.locks.after a).lock? id = some l) (hHeld : l.held = true) :
    l.kind ∈ kinds := by
  rcases Lock.Scene.held_after hLock hHeld with ⟨before, hBefore, hWas, hKind⟩ |
    ⟨name, timeout, hAnswer⟩
  · rw [← hKind]
    exact h.kind_of_held id before hBefore hWas
  · exact h.kind_of_answer hAnswer

theorem Supporting.kind_of_recorded_after (h : Supporting kinds s) (hStep : Step s t)
    {id timeout : Nat} {name : String} {kind : Lock.Kind}
    (hMem : Call.acquireLock id name kind timeout ∈ t.host.platform.calls) : kind ∈ kinds := by
  have hEffect := effect_of_step hStep
  generalize t.host.platform = p at hEffect hMem
  cases hEffect with
  | made hMade =>
    rcases List.mem_append.mp hMem with hOld | hNew
    · exact h.kind_of_recorded _ _ _ _ hOld
    · exact h.kind_of_answer (Platform.accepts_iff.mp (hMade _ hNew).2)
  | changed c =>
    rw [Lock.Change.calls_apply] at hMem
    exact h.kind_of_recorded _ _ _ _ hMem

/-- A step leaves only locks of listed kinds held. -/
theorem supporting_of_step (hStep : Step s t) (h : Supporting kinds s) : Supporting kinds t := by
  refine ⟨(effect_of_step hStep).supported_eq.trans h.supported_eq, ?_,
    fun _ _ _ _ hMem => h.kind_of_recorded_after hStep hMem⟩
  cases hStep with
  | idle => exact h.kind_of_held
  | seen hSeen =>
    intro id l hLock
    rw [show (s.withLock _ s.host).facade.locks.find? id = _ from
      Lock.Registry.find?_put_same hSeen id] at hLock
    exact h.kind_of_held id l hLock
  | power form method values => exact h.kind_of_held
  | lock hOwn => exact fun id l hLock hHeld => h.kind_of_held_after _ hLock hHeld
  | notice hOwn => exact h.kind_of_held

theorem supporting_started {c : Config} {f : Facade} {h : Host}
    (hStarted : Started c f h.platform) :
    Supporting c.lockKinds { facade := f, host := h } := by
  refine ⟨hStarted.supported_eq, ?_, ?_⟩
  · intro id l hLock
    dsimp only at hLock
    rw [hStarted.locks_eq] at hLock
    exact nomatch hLock
  · intro id name kind timeout hMem
    dsimp only at hMem
    rw [hStarted.calls_eq] at hMem
    split at hMem
    · exact nomatch hMem
    · exact nomatch List.mem_singleton.mp hMem

/-! ## What becomes of a hold -/

/-- What becomes of a hold in which nothing was made to fail. -/
structure HoldsListed (kinds : List Lock.Kind) (s : Scene) (id : Nat) (l : Lock.Running)
    (timeout : Nat) : Prop where
  /-- The platform accepts it just for a lock of a listed kind, -/
  calls_eq : (s.after (.lock (.hold id timeout))).host.platform.calls =
    s.host.platform.calls ++ if l.kind ∈ kinds then [l.acquireCall timeout] else []
  /-- and just such a lock is held then. -/
  holding_iff : ∃ l', (s.after (.lock (.hold id timeout))).facade.locks.find? id = some l' ∧
    (l'.isHolding s.host.now = true ↔ l.kind ∈ kinds)
  /-- The hold succeeds unless it needs an alarm that cannot bear the name of the lock. -/
  succeeds : l.kind ∈ kinds → timeout = 0 ∨ l.canBeAlarmed = true →
    (l.hold timeout s.host).1 = .ok ()
  /-- A hold that is refused changes nothing. -/
  refused : l.kind ∉ kinds →
    l.hold timeout s.host = (.error (Platform.unsupported l.kind), l, s.host)

theorem Supporting.holdsListed (h : Supporting kinds s)
    (hCalm : s.host.platform.Undisturbed .acquireLock) {id : Nat} {l : Lock.Running}
    (hLock : s.facade.locks.find? id = some l) (timeout : Nat) :
    HoldsListed kinds s id l timeout := by
  have hId : l.id = id := Lock.Registry.id_of_find? hLock
  have hAfter : s.after (.lock (.hold id timeout)) = _ := withLocks_hold hLock timeout
  have hAnswer : s.host.answer (l.acquireCall timeout) = _ :=
    Platform.answer_acquireLock hCalm l.id l.name l.kind timeout
  rw [h.supported_eq] at hAnswer
  have hThere : (s.after (.lock (.hold id timeout))).facade.locks.find? id =
      some (l.hold timeout s.host).2.1 := by
    rw [hAfter]
    exact Lock.Registry.find?_put_of_find? hLock
      ((l.hold_staysWithin timeout s.host).id_eq.trans hId)
  have hPlatform : (s.after (.lock (.hold id timeout))).host.platform =
      (l.hold timeout s.host).2.2.platform := by rw [hAfter]; rfl
  by_cases hKind : l.kind ∈ kinds
  · rw [if_pos hKind] at hAnswer
    obtain ⟨hSeen, hCalls, hSucceeds⟩ := Lock.Running.hold_of_ok hAnswer
    refine ⟨?_, ⟨_, hThere, iff_of_true hSeen hKind⟩, fun _ => hSucceeds, absurd hKind⟩
    rw [hPlatform, hCalls, if_pos hKind]
  · rw [if_neg hKind] at hAnswer
    have hHold : l.hold timeout s.host = (.error (Platform.unsupported l.kind), l, s.host) :=
      Lock.Running.hold_of_error hAnswer
    rw [hHold] at hThere hPlatform
    have hSeen := Lock.Running.isHolding_of_free (h.free hLock hKind) s.host.now
    refine ⟨?_, ⟨_, hThere, iff_of_false (Bool.eq_false_iff.mp hSeen) hKind⟩,
      fun hIs => absurd hIs hKind, fun _ => hHold⟩
    rw [hPlatform, if_neg hKind, List.append_nil]

/-! ## The promise -/

/-- What holds at any time of a facade that can hold locks of these kinds. -/
structure Serves (kinds : List Lock.Kind) (s : Scene) : Prop where
  /-- A lock of another kind is not held, whatever was made to fail, -/
  unlisted_free : ∀ id l, s.facade.locks.find? id = some l → l.kind ∉ kinds →
    ∀ now, l.isHolding now = false ∧ (l.snapshot now).held = false
  /-- and the platform never accepted a hold of another kind. -/
  recorded_listed : ∀ id name kind timeout,
    Call.acquireLock id name kind timeout ∈ s.host.platform.calls → kind ∈ kinds
  /-- Where nothing was made to fail in holds, one is accepted exactly if its kind is listed. -/
  accepted_iff : s.host.platform.Undisturbed .acquireLock → ∀ id name kind timeout,
    s.host.answer (.acquireLock id name kind timeout) = .ok () ↔ kind ∈ kinds
  holdsListed : s.host.platform.Undisturbed .acquireLock → ∀ id l timeout,
    s.facade.locks.find? id = some l → HoldsListed kinds s id l timeout

theorem Supporting.serves (h : Supporting kinds s) : Serves kinds s := by
  refine ⟨?_, h.kind_of_recorded, ?_,
    fun hCalm id l timeout hLock => h.holdsListed hCalm hLock timeout⟩
  · intro id l hLock hUnlisted now
    have hFree := h.free hLock hUnlisted
    refine ⟨Lock.Running.isHolding_of_free hFree now, ?_⟩
    show (l.held && _) = false
    rw [hFree]
    rfl
  · intro hCalm id name kind timeout
    rw [← h.supported_eq]
    have hAnswer : s.host.answer _ = _ := Platform.answer_acquireLock hCalm id name kind timeout
    rw [hAnswer]
    split
    · next hKind => exact iff_of_true rfl hKind
    · next hKind => exact iff_of_false nofun hKind

/-- The checks accept just the sound configurations, whatever text they were read from. From each
that they accept, a facade starts that tells the initial mode and whether the screen is lit. In
every run of it, whatever is made to fail meanwhile, a lock of a kind that is not listed is never
held; and as long as nothing is made to fail in holds, a hold is accepted exactly if its kind is
listed. -/
theorem validated_works (c : Config) (origin : Log.Origin) :
    (Config.validate c = .ok () ↔ c.Sound) ∧
    (Config.validate c = .ok () →
      ∃ f h, start c (hostFor c origin) = (.ok f, h) ∧
        (∀ form, (f.callPower form "getPowerMode" [] h).1 =
          .ok (.nat c.power.initialMode.toNat)) ∧
        (∀ form, (f.callPower form "isScreenOn" [] h).1 = .ok (.bool c.power.screenOn)) ∧
        ∀ actions, (({ facade := f, host := h } : Scene).run actions).Serves c.lockKinds) := by
  refine ⟨Config.validate_eq_ok_iff, fun hValid => ?_⟩
  obtain ⟨f, h, hStart, hStarted⟩ := started_of_validate hValid origin
  refine ⟨f, h, hStart, ?_, ?_, ?_⟩
  · intro form
    rw [← hStarted.mode_eq]
    exact Api.Scene.deliver_ok form _
  · intro form
    rw [← hStarted.screen_eq]
    exact Api.Scene.deliver_ok form _
  · intro actions
    exact (run_keeps (fun _ _ => supporting_of_step) actions (supporting_started hStarted)).serves

/-- A lock of the kind that is missing from the list cannot be held, and another one can. -/
theorem unlisted_kind_not_held :
    let c : Config := { power := { initialMode := 601 }, lockKinds := [.background] }
    Config.validate c = .ok () ∧
      ∃ f h, start c (hostFor c ⟨"run", "host"⟩) = (.ok f, h) ∧
        let s := ({ facade := f, host := h } : Scene).run
          [.call (.createLock .direct "createRunningLock" [.text "near", .nat 2]),
            .lockCall 1 "hold" [.nat 0], .lock (.create "far" .background)]
        ∃ near far, s.facade.locks.find? 1 = some near ∧ s.facade.locks.find? 2 = some far ∧
          (∀ now, near.isHolding now = false) ∧
          (near.hold 0 s.host).1 = .error (Platform.unsupported .proximityScreenControl) ∧
          (far.hold 0 s.host).1 = .ok () := by
  intro c
  have hToken : Text.isAllBlank c.notice.token = false := by decide +kernel
  have hValid : Config.validate c = .ok () := by
    unfold Config.validate
    rw [hToken]
    rfl
  refine ⟨hValid, ?_⟩
  obtain ⟨f, h, hStart, -, -, hServes⟩ := (validated_works c ⟨"run", "host"⟩).2 hValid
  obtain rfl : f = ⟨c, ⟨.powerSave, .on⟩, {}, Notice.Service.silent c.notice c.device, 0⟩ :=
    Except.ok.inj (congrArg Prod.fst hStart).symm
  obtain rfl : h = (start c (hostFor c ⟨"run", "host"⟩)).2 := (congrArg Prod.snd hStart).symm
  refine ⟨_, _, hStart, ?_⟩
  intro s
  have hNow : s.Serves [.background] := hServes _
  have hCalm : s.host.platform.Undisturbed .acquireLock := by decide +kernel
  let near : Lock.Running := { id := 1, name := "near", kind := .proximityScreenControl }
  let far : Lock.Running := { id := 2, name := "far", kind := .background }
  have hNear : s.facade.locks.find? 1 = some near := by decide +kernel
  have hFar : s.facade.locks.find? 2 = some far := by decide +kernel
  refine ⟨near, far, hNear, hFar, ?_, ?_, ?_⟩
  · exact fun now => (hNow.unlisted_free 1 near hNear (by decide) now).1
  · exact congrArg Prod.fst ((hNow.holdsListed hCalm 1 near 0 hNear).refused (by decide))
  · exact (hNow.holdsListed hCalm 2 far 0 hFar).succeeds (by decide) (.inl rfl)

end Scene

end Facade

end DevicePower
