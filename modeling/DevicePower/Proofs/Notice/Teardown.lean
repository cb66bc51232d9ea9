import DevicePower.Proofs.Notice.Locks
import DevicePower.Proofs.Notice.Trace

/-!
# The end of the service among requests

The service may be ended while requests are under way, and more may come in. The end closes the
table first, so that no request gets a session from then on. Then it takes the lock of every session
that the table had, one after the other, which waits for the request that is carried out in the
session. Requests that come to the lock later find the session retired. So when the end begins to
dismiss the notice, no request is making calls, and none will.

What a thread relies on while others act is said by `Thread.Fits`: a request that is carried out has
a session that is not retired, and the end has ahead of it every session that is not retired. A step
keeps this for the thread itself (`Step.fits`) and for every other (`Changes.fits`); for the latter
it matters that no two threads have the same lock.

## Main results

* `Teardown.stepped`, `teardown_run`: what every thread relies on holds along every run, and no
  request asks the platform once the end has begun to dismiss the notice.
* `teardown_waits`: the end of the service among any requests.
-/

namespace DevicePower.Notice

/-- The sessions that the end of the service has yet to retire, once it has closed the table. -/
def DestroyStage.pending? : DestroyStage → Option (List ConnectId)
  | .arrived => none
  | .retiring left => some left
  | .holding id left => some (id :: left)
  | .leaving _ left => some left
  | .calling _ => some []
  | .ended _ => some []

/-- Whether the end of the service has begun to dismiss the notice. -/
def DestroyStage.isDismissing : DestroyStage → Bool
  | .calling _ => true
  | .ended _ => true
  | _ => false

namespace Thread

/-- What a thread relies on of the table. -/
def Fits (t : Table) : Thread → Prop
  | request r _ (.admitted _) => (t.find? r.caller.connectId).isSome
  | request r _ (.counted _) => (t.find? r.caller.connectId).isSome
  | request r _ (.cleared _) => t.Stands r.caller.connectId
  | request r _ (.calling _ _ _) => t.Stands r.caller.connectId
  | destroy stage =>
    match stage.pending? with
    | none => t.closed = false
    | some left => t.closed = true ∧ ∀ id, t.Stands id → id ∈ left
  | _ => True

namespace Changes

variable {thread other : Thread} {t t' : Table} {deed : Deed} {id : ConnectId}

/-- A step leaves alone what every other thread relies on. -/
theorem fits (h : Changes thread t t' deed) (hFits : other.Fits t)
    (hLocks : ∀ id, other.holds = some id → thread.holds ≠ some id)
    (hSole : ∀ stage stage', other = .destroy stage → thread ≠ .destroy stage') :
    other.Fits t' := by
  have hStands : ∀ id, other.holds = some id → t.Stands id → t'.Stands id := by
    intro id hHolds hBefore
    refine h.stands hBefore fun left hThread => hLocks id hHolds ?_
    rw [hThread]
    rfl
  cases other with
  | request r data stage =>
    cases stage with
    | admitted c => exact h.isSome_find? hFits
    | counted c => exact h.isSome_find? hFits
    | cleared c => exact hStands _ rfl hFits
    | calling c left refused => exact hStands _ rfl hFits
    | _ => trivial
  | destroy stage =>
    cases hPending : stage.pending? with
    | none =>
      rw [Fits, hPending] at hFits ⊢
      exact h.open_of_open hFits (hSole stage _ rfl)
    | some left =>
      rw [Fits, hPending] at hFits ⊢
      obtain ⟨hClosed, hCovers⟩ := hFits
      exact ⟨h.closed_of_closed hClosed,
        fun id hAfter => hCovers id (h.stands_of_stands hClosed hAfter)⟩
  | _ => trivial

end Changes

/-- A step of a thread keeps what the thread relies on. -/
theorem Step.fits {listing : Listing} {s s' : Shared} {thread thread' : Thread} {deed : Deed}
    (h : Step listing s thread s' thread' deed) (hFits : thread.Fits s.service.table) :
    thread'.Fits s'.service.table := by
  have hChanges := h.changes
  cases h with
  | admitted => exact Option.isSome_iff_exists.mpr ⟨_, Table.find?_entered_self _ _ _⟩
  | counted => exact hChanges.isSome_find? hFits
  | cleared hRetired => exact Table.stands_of_not_retired hFits hRetired
  | told => exact hChanges.stands hFits nofun
  | called => exact hFits
  | closed =>
    refine ⟨rfl, fun id hStands => ?_⟩
    exact (listing.perm _).mem_iff.mpr (Table.mem_liveIds hFits hStands)
  | @retires id left =>
    obtain ⟨hClosed, hCovers⟩ := hFits
    refine ⟨hClosed, fun other hStands => ?_⟩
    rcases List.mem_cons.mp (hCovers other (hChanges.stands_of_stands hClosed hStands)) with
      rfl | hLeft
    · exact absurd hStands (Table.not_stands_retire _ _)
    · exact hLeft
  | locked => exact hFits
  | unlocked => exact hFits
  | dismissing => exact hFits
  | destroyCrashed => exact hFits
  | destroyCalled => exact hFits
  | destroyEnded => exact hFits
  | _ => trivial

section Step

variable {listing : Listing} {s s' : Shared} {thread thread' : Thread} {deed : Deed}

/-- The end of the service begins to dismiss the notice when it has no session left to retire. -/
theorem Step.of_dismissing (h : Step listing s thread s' thread' .dismissing) :
    ∃ stage stage', thread = destroy stage ∧ thread' = destroy stage' ∧
      stage'.isDismissing = true := by
  generalize hDeed : Deed.dismissing = deed at h
  cases h with
  | dismissing => exact ⟨_, _, rfl, rfl, rfl⟩
  | _ => exact nomatch hDeed

theorem Step.isDismissing {stage : DestroyStage}
    (h : Step listing s (destroy stage) s' thread' deed)
    (hBegun : stage.isDismissing = true) :
    ∃ stage', thread' = destroy stage' ∧ stage'.isDismissing = true := by
  cases h with
  | destroyCrashed => exact ⟨_, rfl, rfl⟩
  | destroyCalled => exact ⟨_, rfl, rfl⟩
  | destroyEnded => exact ⟨_, rfl, rfl⟩
  | _ => exact nomatch hBegun

/-- A request asks the platform in the session in which it is carried out. -/
theorem Step.stands_of_asked {r : Service.Request} {data : Parcel} {stage : Stage} {call : Call}
    {accepted : Bool} (h : Step listing s (request r data stage) s' thread' (.asked call accepted))
    (hFits : (request r data stage).Fits s.service.table) :
    s.service.table.Stands r.caller.connectId := by
  generalize hThread : request r data stage = thread at h hFits
  generalize hDeed : Deed.asked call accepted = deed at h
  cases h with
  | crashed =>
    cases hThread
    exact hFits
  | called =>
    cases hThread
    exact hFits
  | cancelCrashed => exact nomatch hThread
  | cancelCalled => exact nomatch hThread
  | destroyCrashed => exact nomatch hThread
  | destroyCalled => exact nomatch hThread
  | _ => exact nomatch hDeed

end Step

end Thread

namespace Traffic

/-- What holds while the service is ended by the first thread, and only by that one. -/
structure Teardown (arrivals : List Arrival) (t : Traffic) : Prop where
  locked : t.Locked
  keeps : t.Keeps arrivals
  fits : ∀ (i : Nat) (thread : Thread), t.threads[i]? = some thread →
    thread.Fits t.shared.service.table
  begun : ∀ i, (i, Deed.dismissing) ∈ t.trace →
    ∃ stage, t.threads[0]? = some (.destroy stage) ∧ stage.isDismissing = true
  /-- No request asks the platform after the end has begun to dismiss the notice. -/
  quiet : ∀ later earlier, t.trace = later ++ (0, .dismissing) :: earlier →
    ∀ i r data call accepted, arrivals[i]? = some (.request r data) →
      (i, .asked call accepted) ∉ later

variable {s : Scene} {listing : Listing} {arrivals : List Arrival} {t : Traffic}

theorem teardown_start (hStands : s.service.isDestroyed = false) :
    (start s listing arrivals).Teardown arrivals where
  locked := locked_start s listing arrivals
  keeps := keeps_start s listing arrivals
  fits := by
    intro i thread hThread
    obtain ⟨a, -, rfl⟩ := List.mem_map.mp (List.mem_of_getElem? hThread)
    cases a with
    | destroy => exact hStands
    | _ => trivial
  begun := fun _ hMem => absurd hMem List.not_mem_nil
  quiet := fun later _ hTrace => by cases later <;> exact nomatch hTrace

theorem Teardown.stepped {i : Nat} {thread thread' : Thread} {s' : Shared} {deed : Deed}
    (h : t.Teardown arrivals) (hSole : ∀ i, arrivals[i]? = some .destroy → i = 0)
    (hThread : t.threads[i]? = some thread)
    (hStep : Thread.Step t.listing t.shared thread s' thread' deed) :
    (t.stepped i s' thread' deed).Teardown arrivals := by
  have hFirst : ∀ j stage, t.threads[j]? = some (.destroy stage) → j = 0 := by
    intro j stage hDestroy
    obtain ⟨a, hArrival, hIs⟩ := h.keeps j _ hDestroy
    cases a with
    | destroy => exact hSole j hArrival
    | _ => exact nomatch hIs
  have hOwn : (t.stepped i s' thread' deed).threads[i]? = some thread' :=
    List.getElem?_set_self (List.getElem?_eq_some_iff.mp hThread).1
  have hOther : ∀ j, i ≠ j → (t.stepped i s' thread' deed).threads[j]? = t.threads[j]? :=
    fun j hNe => List.getElem?_set_ne hNe
  refine ⟨h.locked.stepped hThread hStep, h.keeps.stepped hThread hStep, ?_, ?_, ?_⟩
  · intro j other hAfter
    rcases getElem?_stepped hAfter with ⟨-, rfl⟩ | ⟨hNe, hBefore⟩
    · exact hStep.fits (h.fits i thread hThread)
    · refine hStep.changes.fits (h.fits j other hBefore) ?_ ?_
      · intro id hHolds hHolds'
        exact hNe (h.locked.exclusive hThread hBefore hHolds' hHolds)
      · rintro stage stage' rfl rfl
        exact hNe ((hFirst i stage' hThread).trans (hFirst j stage hBefore).symm)
  · intro j hMem
    rcases List.mem_cons.mp hMem with hNew | hOld
    · obtain ⟨rfl, rfl⟩ := Prod.mk.inj hNew
      obtain ⟨stage, stage', rfl, rfl, hBegun⟩ := hStep.of_dismissing
      obtain rfl := hFirst j stage hThread
      exact ⟨stage', hOwn, hBegun⟩
    · obtain ⟨stage, hDestroy, hBegun⟩ := h.begun j hOld
      by_cases hActs : i = 0
      · subst hActs
        obtain rfl := Option.some.inj (hThread.symm.trans hDestroy)
        obtain ⟨stage', rfl, hBegun'⟩ := hStep.isDismissing hBegun
        exact ⟨stage', hOwn, hBegun'⟩
      · exact ⟨stage, (hOther 0 hActs).trans hDestroy, hBegun⟩
  · intro later earlier hTrace j r data call accepted hRequest hMem
    cases later with
    | nil => exact List.not_mem_nil hMem
    | cons last later =>
      obtain ⟨hLast, hRest⟩ := List.cons.inj hTrace
      rcases List.mem_cons.mp hMem with hNew | hOld
      -- The step asks for a request, so a session stands; but the end has none left.
      · obtain ⟨rfl, rfl⟩ := Prod.mk.inj (hLast.trans hNew.symm)
        obtain ⟨stage, rfl⟩ := h.keeps.request hRequest hThread
        have hSession := hStep.stands_of_asked (h.fits i _ hThread)
        have hDismissing : (0, Deed.dismissing) ∈ t.trace := by
          rw [hRest]
          exact List.mem_append_right later List.mem_cons_self
        obtain ⟨stage, hDestroy, hBegun⟩ := h.begun 0 hDismissing
        have hCovers := h.fits 0 _ hDestroy
        cases stage with
        | calling left => exact absurd (hCovers.2 _ hSession) List.not_mem_nil
        | ended outcome => exact absurd (hCovers.2 _ hSession) List.not_mem_nil
        | _ => exact nomatch hBegun
      · exact h.quiet later earlier hRest j r data call accepted hRequest hOld

theorem teardown_run (hStands : s.service.isDestroyed = false)
    (hSole : ∀ i, arrivals[i]? = some .destroy → i = 0) (schedule : List Nat) :
    ((start s listing arrivals).run schedule).Teardown arrivals :=
  run_keeps (P := Teardown arrivals) (fun _ _ _ _ _ _ hBefore hThread hStep =>
    hBefore.stepped hSole hThread hStep) schedule (teardown_start hStands)

/-- The end of the service among requests, and whatever else but a second end, in any order of
steps. Every run takes a bounded number of steps, and if no thread can go on, all have come to their
end. No two threads ever have the lock of the same connection. What the platform has on record is
what it accepted in the trace. Once the end has begun to dismiss the notice, no request asks the
platform. And a request that had not asked before never does; if it was a proper one, it is answered
with `failed`, and has that answer when all is done. -/
theorem teardown_waits (hStands : s.service.isDestroyed = false) (listing : Listing)
    {others : List Arrival} (hSole : Arrival.destroy ∉ others) :
    let begun := start s listing (.destroy :: others)
    (∀ schedule, (begun.run schedule).trace.length ≤ begun.ahead begun.room) ∧
    ∀ schedule,
      let now := begun.run schedule
      ((∀ i, now.step? i = none) → now.isDone = true) ∧
      (∀ (i j : Nat) (thread other : Thread) (id : ConnectId),
        now.threads[i]? = some thread → now.threads[j]? = some other →
        thread.holds = some id → other.holds = some id → i = j) ∧
      now.shared.platform.calls = s.host.platform.calls ++ now.accepted ∧
      ∀ later earlier, now.trace = later ++ (0, .dismissing) :: earlier →
        ∀ i r data, others[i]? = some (.request r data) →
          ¬ Asks (i + 1) later ∧
          (¬ Asks (i + 1) earlier →
            ¬ Asks (i + 1) now.trace ∧
            (data.token? = some s.service.settings.token → Command.ofCode? r.code ≠ none →
              let answer := now.threads[i + 1]?.bind Thread.reply?
              answer = some .failed ∨ answer = none ∧ now.isDone = false)) := by
  intro begun
  have hFirst : ∀ i, (Arrival.destroy :: others)[i]? = some .destroy → i = 0 := by
    intro i hDestroy
    cases i with
    | zero => rfl
    | succ i =>
      have hAmong : others[i]? = some .destroy := hDestroy
      exact absurd (List.mem_of_getElem? hAmong) hSole
  have hEmpty : begun.trace.length + begun.ahead begun.room = begun.ahead begun.room :=
    Nat.zero_add _
  refine ⟨fun schedule => hEmpty ▸ begun.trace_length_run schedule, fun schedule => ?_⟩
  intro now
  have hTeardown : now.Teardown (.destroy :: others) := teardown_run hStands hFirst schedule
  refine ⟨hTeardown.locked.isDone_of_stuck, ?_, calls_run, ?_⟩
  · exact fun i j thread other id hThread hOther => hTeardown.locked.exclusive hThread hOther
  · intro later earlier hTrace i r data hRequest
    have hLater : ¬ Asks (i + 1) later := fun ⟨call, accepted, hMem⟩ =>
      hTeardown.quiet later earlier hTrace (i + 1) r data call accepted hRequest hMem
    refine ⟨hLater, fun hEarlier => ?_⟩
    have hNever : ¬ Asks (i + 1) now.trace := by
      rintro ⟨call, accepted, hMem⟩
      rw [hTrace, List.mem_append, List.mem_cons] at hMem
      rcases hMem with hLate | hNow | hEarly
      · exact hLater ⟨call, accepted, hLate⟩
      · exact nomatch hNow
      · exact hEarlier ⟨call, accepted, hEarly⟩
    refine ⟨hNever, fun hToken hCommand => ?_⟩
    have hLength : i + 1 < now.threads.length := by
      have hShort := (List.getElem?_eq_some_iff.mp hRequest).1
      rw [length_threads_run]
      exact Nat.succ_lt_succ hShort
    obtain ⟨thread, hThread⟩ : ∃ thread, now.threads[i + 1]? = some thread :=
      ⟨_, List.getElem?_eq_getElem hLength⟩
    obtain ⟨stage, rfl⟩ := hTeardown.keeps.request hRequest hThread
    have hAccounts := accounts_run hThread
    dsimp only
    rw [hThread, Option.bind_some]
    cases stage with
    | answered reply =>
      rcases hAccounts with ⟨-, hAsks⟩ | rfl | hWrong | hUnknown
      · exact absurd hAsks hNever
      · exact Or.inl rfl
      · exact absurd hToken hWrong
      · exact absurd hUnknown hCommand
    | _ =>
      refine Or.inr ⟨rfl, ?_⟩
      rw [← Bool.not_eq_true]
      intro hDone
      exact nomatch List.all_eq_true.mp hDone _ (List.mem_of_getElem? hThread)

/-- Sessions are gone through in the order of their first requests. -/
def firstToLast : Listing := ⟨id, List.Perm.refl⟩

/-- Two requests of one caller and one of another. -/
def inFlight : List Arrival :=
  let token := Parcel.textBytes "ohos.multimodalinput.IInjectNotice"
  [.request ⟨⟨7, 9⟩, 0⟩ (Parcel.ofBytes (token ++ Parcel.intBytes 5)),
   .request ⟨⟨7, 9⟩, 0⟩ (Parcel.ofBytes token),
   .request ⟨⟨8, 9⟩, 0⟩ (Parcel.ofBytes token)]

/-- The end comes when the first request has the lock and the others have their sessions. -/
def endInBetween : List Nat :=
  [1, 1, 1, 2, 3, 0, 0, 1, 1, 0, 1, 1, 0, 0, 0, 0, 0, 0, 0, 0, 3, 3, 3, 2, 2, 2, 0, 0]

/-- The end waits for the request that has the lock. The other two, which have their sessions and
come to the lock later, fail. -/
theorem teardown_waits_for_one :
    (Scene.fresh {} .phone).service.isDestroyed = false ∧ Arrival.destroy ∉ inFlight ∧
    let now := (start (Scene.fresh {} .phone) firstToLast (.destroy :: inFlight)).run endInBetween
    now.isDone = true ∧
    now.threads.map Thread.reply? = [none, some .success, some .failed, some .failed] ∧
    now.accepted = [.publish 100 "inject notice" (some 5) "event_inject_close_notice",
      .authorize false, .cancel 100 "inject notice"] ∧
    ∀ later earlier, now.trace = later ++ (0, .dismissing) :: earlier → ¬ Asks 1 later := by
  have hSole : Arrival.destroy ∉ inFlight := by simp [inFlight]
  refine ⟨rfl, hSole, by decide +kernel, by decide +kernel, by decide +kernel, ?_⟩
  intro later earlier hTrace
  exact ((teardown_waits rfl firstToLast hSole).2 endInBetween).2.2.2 later earlier hTrace 0 _ _ rfl
    |>.1

end Traffic

end DevicePower.Notice
