import DevicePower.Proofs.Notice.Independence
import DevicePower.Proofs.Notice.Locks
import DevicePower.Proofs.Notice.Trace
import Mathlib.Data.List.Nodup

/-!
# A close event that meets a request

A request for the notice shows the notice first and gives its session the status second. A close
event hides the notice first and gives every session the status second. The request has the lock of
its session meanwhile, but the close event takes no lock, so the four changes come in any order that
keeps the two of each thread in theirs.

So there are two contests: who changes the notice last, and who changes the status last. If the same
thread is last in both, the outcome is that of one thread after the other. If not, the notice is
shown and the session says that the user closed it, or the notice is hidden and the session says
that it is shown.

Along a run it is kept which changes have been made and which are ahead: together they are always
the four. This takes that nothing goes wrong in either thread, which `Smooth` says of a thread and
`Calm` of what is shared.

## Main results

* `Step.smooth`: a step makes the next of the changes that a thread has ahead, or none.
* `Meeting.after_request`, `Meeting.after_userCancel`: what is seen after each of the two
  operations.
* `cancel_meets_request`: what is seen after both, in any order of steps.
-/

namespace DevicePower

/-- There are two orders of two things. -/
theorem eq_or_eq_of_perm_pair {α : Type} {a b : α} {l : List α} (h : l.Perm [a, b]) :
    l = [a, b] ∨ l = [b, a] := by
  match l, h.length_eq with
  | [x, y], _ =>
    rcases List.mem_cons.mp (h.mem_iff.mp List.mem_cons_self) with rfl | hSecond
    · have hRest : [y].Perm [b] := (List.perm_cons x).mp h
      rw [List.singleton_perm_singleton.mp hRest]
      exact Or.inl rfl
    · obtain rfl := List.mem_singleton.mp hSecond
      have hRest : [y].Perm [a] := (List.perm_cons x).mp (h.trans (List.Perm.swap x a []))
      rw [List.singleton_perm_singleton.mp hRest]
      exact Or.inr rfl

/-- After more calls of which one shows or hides the notice, the notice is as this one leaves it. -/
theorem Platform.isShown_recorded (p : Platform) {cs : List Call} {shown : Bool}
    (h : cs.filterMap Call.visible? = [shown]) : (p.recorded cs).isShown = shown := by
  unfold isShown recorded
  rw [List.filterMap_append, h, List.getLast?_append]
  rfl

namespace Notice

/-- What is seen of the notice and of the session of a connection: whether the notice is shown, and
the status. -/
def Service.seen (s : Service) (p : Platform) (id : ConnectId) : Bool × Option Status :=
  (p.isShown, (s.table.find? id).map fun x => x.status)

namespace Presenter

/-- Showing the notice shows it once. -/
theorem visible_showing (p : Presenter) (pid : Option Int32) :
    (p.calls pid .openNotice).filterMap Call.visible? = [true] := by
  cases p <;> rfl

/-- A dismissal hides the notice once. -/
theorem visible_dismissal (p : Presenter) : p.dismissal.filterMap Call.visible? = [false] := by
  cases p <;> rfl

end Presenter

/-- A call that is accepted makes the change that it is for. -/
theorem Shared.visible_asked {s : Shared} {call : Call} (h : s.platform.accepts call = true)
    (left : List Call) :
    (s.asked call).visible?.toList ++ left.filterMap Call.visible? =
      (call :: left).filterMap Call.visible? := by
  unfold asked
  rw [h, List.filterMap_cons]
  dsimp only [Deed.visible?]
  cases call.visible? <;> rfl

namespace Thread

/-- The changes of the notice that a thread has ahead, if nothing goes wrong: `true` where it shows
the notice. -/
def visibleAhead : Thread → List Bool
  | request _ _ (.calling _ left _) => left.filterMap Call.visible?
  | request _ _ (.leaving _) => []
  | request _ _ (.answered _) => []
  | request _ _ _ => [true]
  | userCancel _ .arrived => [false]
  | userCancel _ (.calling left) => left.filterMap Call.visible?
  | _ => []

/-- The statuses that a thread has ahead for the session of a connection, if nothing goes wrong. -/
def statusAhead (id : ConnectId) : Thread → List Status
  | request _ _ (.leaving _) => []
  | request _ _ (.answered _) => []
  | request _ _ _ => [.opening]
  | userCancel _ .arrived => [.manClose]
  | userCancel _ (.calling _) => [.manClose]
  | userCancel _ (.marking left) => (left.filter (· == id)).map fun _ => .manClose
  | _ => []

/-- Whether a thread is a request for the notice of a connection, or a close event that is meant,
and nothing has gone wrong in it. -/
def Smooth (settings : Config.NoticeSettings) (id : ConnectId) : Thread → Prop
  | request r data stage =>
    r.caller.connectId = id ∧ data.token? = some settings.token ∧
    Command.ofCode? r.code = some .openNotice ∧
    match stage with
    | .admitted c => c = .openNotice
    | .counted c => c = .openNotice
    | .cleared c => c = .openNotice
    | .calling c left refused =>
      c = .openNotice ∧ refused = false ∧ ∀ call ∈ left, call.isNotice = true
    | _ => True
  | userCancel event stage =>
    event.isFor settings = true ∧
    match stage with
    | .calling left => ∀ call ∈ left, call.isNotice = true
    | _ => True
  | _ => False

end Thread

/-- Whether nothing can go wrong for the threads of a connection: the session is there and not
retired, the service stands, and the platform accepts every call of the service. -/
structure Shared.Calm (s : Shared) (settings : Config.NoticeSettings) (id : ConnectId) : Prop where
  settings_eq : s.service.settings = settings
  open_eq : s.service.table.closed = false
  stands : s.service.table.Stands id
  nodup : s.service.table.ids.Nodup
  accepts : ∀ call : Call, call.isNotice = true → s.platform.accepts call = true

namespace Thread

variable {listing : Listing} {s s' : Shared} {thread thread' : Thread} {deed : Deed}
  {settings : Config.NoticeSettings} {id : ConnectId}

theorem Step.calm (h : Step listing s thread s' thread' deed) (hCalm : s.Calm settings id)
    (hSmooth : thread.Smooth settings id) : s'.Calm settings id := by
  have hAnswer : s'.platform.answer = s.platform.answer := by
    refine h.answer_eq ?_
    rintro script rfl
    exact hSmooth
  have hNoEnd : ∀ stage, thread ≠ .destroy stage := by
    rintro stage rfl
    exact hSmooth
  refine ⟨h.settings_eq.1.trans hCalm.settings_eq, h.changes.open_of_open hCalm.open_eq (hNoEnd _),
    h.changes.stands hCalm.stands fun left => hNoEnd _, h.changes.nodup hCalm.nodup, ?_⟩
  intro call hNotice
  have hAccepts := hCalm.accepts call hNotice
  unfold Platform.accepts at hAccepts ⊢
  rw [hAnswer]
  exact hAccepts

/-- A step keeps a thread smooth, and makes the next of the changes that it has ahead, or none. -/
theorem Step.smooth (h : Step listing s thread s' thread' deed) (hCalm : s.Calm settings id)
    (hSmooth : thread.Smooth settings id) :
    thread'.Smooth settings id ∧
    deed.visible?.toList ++ thread'.visibleAhead = thread.visibleAhead ∧
    (deed.status? id).toList ++ thread'.statusAhead id = thread.statusAhead id := by
  have hAccepts := hCalm.accepts
  cases h with
  | misunderstood hWrong =>
    obtain ⟨-, hToken, hCommand, -⟩ := hSmooth
    rw [hCalm.settings_eq] at hWrong
    rcases hWrong with hWrong | hUnknown
    · exact absurd hToken hWrong
    · exact nomatch hUnknown.symm.trans hCommand
  | late hClosed => exact nomatch hClosed.symm.trans hCalm.open_eq
  | admitted hTakes =>
    obtain ⟨hId, hToken, hCommand, -⟩ := hSmooth
    have hOpens := Option.some.inj (hTakes.command_eq.symm.trans hCommand)
    exact ⟨⟨hId, hToken, hCommand, hOpens⟩, rfl, rfl⟩
  | counted => exact ⟨hSmooth, rfl, rfl⟩
  | retired hRetired =>
    obtain ⟨rfl, -⟩ := hSmooth
    obtain ⟨x, hFind, hNot⟩ := hCalm.stands
    unfold Table.isRetired at hRetired
    rw [hFind, Option.any_some, hNot] at hRetired
    exact nomatch hRetired
  | cleared => exact ⟨hSmooth, rfl, rfl⟩
  | @told _ _ c pid =>
    obtain ⟨hId, hToken, hCommand, hOpens⟩ := hSmooth
    obtain rfl : c = .openNotice := hOpens
    refine ⟨⟨hId, hToken, hCommand, rfl, rfl, ?_⟩, ?_, rfl⟩
    · intro call hMem
      rw [List.mem_singleton.mp hMem]
      exact Presenter.isNotice_showing _ _
    · exact s.service.presenter.visible_showing pid
  | crashed hCrash =>
    obtain ⟨-, -, -, -, -, hCalls⟩ := hSmooth
    have hCalm' := Platform.calm_of_accepts (hAccepts _ (hCalls _ List.mem_cons_self))
    exact nomatch hCrash.symm.trans hCalm'
  | called =>
    obtain ⟨hId, hToken, hCommand, hOpens, rfl, hCalls⟩ := hSmooth
    have hAccepted := hAccepts _ (hCalls _ List.mem_cons_self)
    refine ⟨⟨hId, hToken, hCommand, hOpens, ?_, fun other hMem => hCalls other ?_⟩,
      Shared.visible_asked hAccepted _, rfl⟩
    · rw [hAccepted]
      rfl
    · exact List.mem_cons_of_mem _ hMem
  | unsettled => exact nomatch hSmooth.2.2.2.2.1
  | settled =>
    obtain ⟨rfl, hToken, hCommand, rfl, -⟩ := hSmooth
    refine ⟨⟨rfl, hToken, hCommand, trivial⟩, rfl, ?_⟩
    dsimp only [Deed.status?]
    rw [if_pos rfl]
    rfl
  | left => exact ⟨⟨hSmooth.1, hSmooth.2.1, hSmooth.2.2.1, trivial⟩, rfl, rfl⟩
  | ignored hFor =>
    rw [hCalm.settings_eq] at hFor
    exact nomatch hFor.symm.trans hSmooth.1
  | meant =>
    refine ⟨⟨hSmooth.1, fun call hMem => Presenter.isNotice_of_mem_dismissal hMem⟩, ?_, rfl⟩
    exact s.service.presenter.visible_dismissal
  | cancelCrashed hCrash =>
    have hCalm' := Platform.calm_of_accepts (hAccepts _ (hSmooth.2 _ List.mem_cons_self))
    exact nomatch hCrash.symm.trans hCalm'
  | cancelCalled =>
    have hAccepted := hAccepts _ (hSmooth.2 _ List.mem_cons_self)
    exact ⟨⟨hSmooth.1, fun other hMem => hSmooth.2 other (List.mem_cons_of_mem _ hMem)⟩,
      Shared.visible_asked hAccepted _, rfl⟩
  | listed =>
    refine ⟨⟨hSmooth.1, trivial⟩, rfl, ?_⟩
    have hPerm := listing.perm s.service.table.liveIds
    have hMem := hPerm.mem_iff.mpr (Table.mem_liveIds hCalm.open_eq hCalm.stands)
    have hNodup := hPerm.nodup_iff.mpr (Table.liveIds_of_open hCalm.open_eq ▸ hCalm.nodup)
    have hOnce := List.count_eq_one_of_mem hNodup hMem
    dsimp only [Deed.status?, statusAhead]
    rw [List.filter_beq, hOnce]
    rfl
  | @marked _ other left =>
    refine ⟨⟨hSmooth.1, trivial⟩, rfl, ?_⟩
    dsimp only [Deed.status?, statusAhead]
    rw [List.filter_cons]
    by_cases hSame : other = id
    · simp [hSame]
    · simp [hSame]
  | cancelEnded => exact ⟨⟨hSmooth.1, trivial⟩, rfl, rfl⟩
  | turned => exact hSmooth.elim
  | _ => exact hSmooth.elim

/-- A thread that has nothing left to do has no change ahead. -/
theorem ahead_of_isDone (h : thread.isDone = true) :
    thread.visibleAhead = [] ∧ thread.statusAhead id = [] := by
  cases thread with
  | request r data stage => cases stage <;> first | exact ⟨rfl, rfl⟩ | exact nomatch h
  | userCancel event stage => cases stage <;> first | exact ⟨rfl, rfl⟩ | exact nomatch h
  | destroy stage => exact ⟨rfl, rfl⟩
  | aside script => exact ⟨rfl, rfl⟩

end Thread

namespace Traffic

variable {t : Traffic} {settings : Config.NoticeSettings} {id : ConnectId}

/-- Where a step makes the next of the changes that a thread has ahead, the changes made and those
ahead remain the same together. -/
theorem perm_stepped {α : Type} (gives : Deed → Option α) (ahead : Thread → List α) {i : Nat}
    {thread thread' : Thread} {s : Shared} {deed : Deed} (hThread : t.threads[i]? = some thread)
    (hGives : (gives deed).toList ++ ahead thread' = ahead thread) :
    (((t.stepped i s thread' deed).trace.reverse.filterMap fun d => gives d.2) ++
      (t.stepped i s thread' deed).threads.flatMap ahead).Perm
    ((t.trace.reverse.filterMap fun d => gives d.2) ++ t.threads.flatMap ahead) := by
  obtain ⟨front, back, hBefore, hAfter⟩ := threads_stepped hThread s thread' deed
  have hMade : ((t.stepped i s thread' deed).trace.reverse.filterMap fun d => gives d.2) =
      (t.trace.reverse.filterMap fun d => gives d.2) ++ (gives deed).toList := by
    unfold stepped
    rw [List.reverse_cons, List.filterMap_append, List.filterMap_cons]
    cases gives deed <;> rfl
  rw [hMade, hAfter, hBefore, List.flatMap_append, List.flatMap_append, List.flatMap_cons,
    List.flatMap_cons, ← hGives, List.append_assoc, List.append_assoc (gives deed).toList]
  exact (List.perm_append_comm_assoc _ _ _).append_left _

/-- What holds while a request for the notice of a connection meets a close event: nothing goes
wrong, and the changes made and those ahead are one of each kind. -/
structure Smooth (settings : Config.NoticeSettings) (id : ConnectId) (t : Traffic) : Prop where
  calm : t.shared.Calm settings id
  threads : ∀ (i : Nat) (thread : Thread), t.threads[i]? = some thread → thread.Smooth settings id
  visibility : (t.visibility ++ t.threads.flatMap Thread.visibleAhead).Perm [true, false]
  statuses : (t.statuses id ++ t.threads.flatMap (Thread.statusAhead id)).Perm [.opening, .manClose]

theorem Smooth.stepped {i : Nat} {thread thread' : Thread} {s : Shared} {deed : Deed}
    (h : t.Smooth settings id) (hThread : t.threads[i]? = some thread)
    (hStep : Thread.Step t.listing t.shared thread s thread' deed) :
    (t.stepped i s thread' deed).Smooth settings id := by
  have hBefore := h.threads i thread hThread
  obtain ⟨hAfter, hVisible, hStatus⟩ := hStep.smooth h.calm hBefore
  refine ⟨hStep.calm h.calm hBefore, ?_, ?_, ?_⟩
  · intro j other hOther
    rcases getElem?_stepped hOther with ⟨-, rfl⟩ | ⟨-, hSame⟩
    · exact hAfter
    · exact h.threads j other hSame
  · exact (perm_stepped Deed.visible? Thread.visibleAhead hThread hVisible).trans h.visibility
  · exact (perm_stepped (Deed.status? id) (Thread.statusAhead id) hThread hStatus).trans h.statuses

/-- When all is done, each of the two changes of the notice was made once, and each of the two of
the status. -/
theorem Smooth.orders (h : t.Smooth settings id) (hDone : t.isDone = true) :
    (t.visibility = [true, false] ∨ t.visibility = [false, true]) ∧
    (t.statuses id = [.opening, .manClose] ∨ t.statuses id = [.manClose, .opening]) := by
  have hNone : ∀ thread ∈ t.threads, thread.visibleAhead = [] ∧ thread.statusAhead id = [] :=
    fun thread hMem => Thread.ahead_of_isDone (List.all_eq_true.mp hDone thread hMem)
  have hVisible : t.threads.flatMap Thread.visibleAhead = [] :=
    List.flatMap_eq_nil_iff.mpr fun thread hMem => (hNone thread hMem).1
  have hStatus : t.threads.flatMap (Thread.statusAhead id) = [] :=
    List.flatMap_eq_nil_iff.mpr fun thread hMem => (hNone thread hMem).2
  have hVisibility := h.visibility
  have hStatuses := h.statuses
  rw [hVisible, List.append_nil] at hVisibility
  rw [hStatus, List.append_nil] at hStatuses
  exact ⟨eq_or_eq_of_perm_pair hVisibility, eq_or_eq_of_perm_pair hStatuses⟩

end Traffic

/-- A request for the notice and a close event that meet. The caller has a session, the event is
meant for the notice, and the platform accepts every call of the service. -/
structure Meeting (s : Scene) (r : Service.Request) (data : Parcel) (event : CloseEvent) :
    Prop where
  reachable : s.Reachable
  takes : s.service.Takes r data .openNotice
  known : (s.service.table.find? r.caller.connectId).isSome
  meant : event.isFor s.service.settings = true
  accepts : ∀ call : Call, call.isNotice = true → s.host.platform.accepts call = true

namespace Meeting

variable {s : Scene} {r : Service.Request} {data : Parcel} {event : CloseEvent}

theorem calm (h : Meeting s r data event) (listing : Listing) (arrivals : List Arrival) :
    (Traffic.start s listing arrivals).shared.Calm s.service.settings r.caller.connectId := by
  obtain ⟨x, hFind⟩ := Option.isSome_iff_exists.mp h.known
  have hOpen := h.takes.open_eq
  exact ⟨rfl, hOpen, ⟨x, hFind, Scene.unretired_of_reachable h.reachable hOpen _ x hFind⟩,
    (Scene.tracks_of_reachable h.reachable hOpen).nodup, h.accepts⟩

theorem smooth_run (h : Meeting s r data event) (listing : Listing) (schedule : List Nat) :
    ((Traffic.start s listing [.request r data, .userCancel event]).run schedule).Smooth
      s.service.settings r.caller.connectId := by
  refine Traffic.run_keeps (P := Traffic.Smooth s.service.settings r.caller.connectId)
    (fun _ _ _ _ _ _ hBefore hThread hStep => hBefore.stepped hThread hStep) schedule
    ⟨h.calm listing _, ?_, .refl _, .refl _⟩
  intro i thread hThread
  match i with
  | 0 =>
    obtain rfl := Option.some.inj hThread
    exact ⟨rfl, h.takes.token_eq, h.takes.command_eq, trivial⟩
  | 1 =>
    obtain rfl := Option.some.inj hThread
    exact ⟨h.meant, trivial⟩
  | i + 2 => exact nomatch hThread

/-- A request for the notice shows it, and the session says so. -/
theorem after_request (h : Meeting s r data event) (reply : Parcel) :
    Meeting (s.after (.request r data reply)) r data event ∧
    (s.after (.request r data reply)).service.seen
      (s.after (.request r data reply)).host.platform r.caller.connectId =
        (true, some .opening) := by
  have hReachable := Scene.reachable_run h.reachable [.request r data reply]
  have hSessions := Scene.unretired_of_reachable h.reachable h.takes.open_eq
  have hAccepted : s.host.platform.accepts (s.service.showCall r data s.host.now) = true :=
    h.accepts _ (Presenter.isNotice_showing _ _)
  obtain ⟨answer, outcome, t, h', hDone, hAfter⟩ := s.after_cases (.request r data reply)
  change (s.after (.request r data reply)).Reachable at hReachable
  rw [hAfter] at hReachable ⊢
  cases hDone with
  | aside hAside => exact nomatch hAside
  | request _ hAnswered hPlatform =>
    have hTable := hAnswered.table_of_takes hSessions h.takes
    obtain ⟨hAnswer, hLeft⟩ := hAnswered.of_openNotice hSessions h.takes
    rw [hAccepted, if_pos rfl] at hAnswer
    rw [hAnswer, if_pos rfl] at hTable
    rw [Platform.attempt_of_ok (Platform.accepts_iff.mp hAccepted)] at hLeft
    have hFound := s.service.table.find?_served_self r.caller s.host.now
      (Session.caller_noted (s.service.presenter.pid? data) (some .opening))
    refine ⟨⟨hReachable, ⟨h.takes.token_eq, h.takes.command_eq, ?_⟩, ?_, h.meant, ?_⟩, ?_⟩
    · exact (congrArg Table.closed hTable).trans
        ((Table.closed_served _ _ _ _).trans h.takes.open_eq)
    · dsimp only
      rw [hTable]
      exact Option.isSome_iff_exists.mpr ⟨_, hFound⟩
    · dsimp only
      rw [hPlatform, hLeft]
      exact h.accepts
    · unfold Service.seen
      dsimp only
      rw [hTable, hPlatform, hLeft]
      refine Prod.ext (Platform.isShown_recorded _ ?_) ?_
      · exact s.service.presenter.visible_showing _
      · exact congrArg (Option.map fun x => x.status) hFound

/-- A close event hides the notice, and the sessions say that the user closed it. -/
theorem after_userCancel (h : Meeting s r data event) :
    Meeting (s.after (.userCancel event)) r data event ∧
    (s.after (.userCancel event)).service.seen (s.after (.userCancel event)).host.platform
      r.caller.connectId = (false, some .manClose) := by
  have hReachable := Scene.reachable_run h.reachable [.userCancel event]
  have hDismissal : ∀ call ∈ s.service.presenter.dismissal,
      s.host.platform.accepts call = true :=
    fun call hMem => h.accepts call (Presenter.isNotice_of_mem_dismissal hMem)
  have hNoCrash : ∀ call ∈ s.service.presenter.dismissal, s.host.platform.crashes call = false :=
    fun call hMem => Platform.calm_of_accepts (hDismissal call hMem)
  have hAll : s.host.platform.acceptedOf s.service.presenter.dismissal =
      s.service.presenter.dismissal := by
    rw [Platform.acceptedOf_eq_filter hNoCrash]
    exact List.filter_eq_self.mpr hDismissal
  obtain ⟨x, hFind⟩ := Option.isSome_iff_exists.mp h.known
  obtain ⟨answer, outcome, t, h', hDone, hAfter⟩ := s.after_cases (.userCancel event)
  change (s.after (.userCancel event)).Reachable at hReachable
  rw [hAfter] at hReachable ⊢
  cases hDone with
  | aside hAside => exact nomatch hAside
  | ignored hFor => exact nomatch hFor.symm.trans h.meant
  | @userCancel _ _ _ crashed hCrashed hPlatform =>
    obtain rfl : crashed = false := hCrashed.symm.trans (Platform.any_crashes_of_calm hNoCrash)
    rw [hAll] at hPlatform
    rw [if_neg Bool.false_ne_true] at hReachable ⊢
    have hFound := Table.find?_modifyLive h.takes.open_eq (Session.caller_become .manClose)
      r.caller.connectId
    rw [hFind] at hFound
    refine ⟨⟨hReachable, ⟨h.takes.token_eq, h.takes.command_eq, ?_⟩, ?_, h.meant, ?_⟩, ?_⟩
    · exact (Table.closed_modifyLive _ _).trans h.takes.open_eq
    · exact Option.isSome_iff_exists.mpr ⟨_, hFound⟩
    · dsimp only
      rw [hPlatform]
      exact h.accepts
    · unfold Service.seen
      dsimp only
      rw [hPlatform]
      refine Prod.ext (Platform.isShown_recorded _ ?_) ?_
      · exact s.service.presenter.visible_dismissal
      · exact congrArg (Option.map fun x => x.status) hFound

/-- A request for the notice and a close event that meet, in any order of steps. After the request
and then the event, the notice is hidden and the session is closed by the user; after the event and
then the request, the notice is shown and the session says so. If the steps of the two come in
between each other, they do not block each other, and when both are done, the notice was shown and
hidden once each and the session was given each of the two statuses once. What is seen is what was
made last. It is what is seen after one and then the other exactly if the thread that was last to
change the notice was also last to change the status. -/
theorem cancel_meets_request (h : Meeting s r data event) (listing : Listing) (reply : Parcel) :
    let id := r.caller.connectId
    let openFirst := s.run [.request r data reply, .userCancel event]
    let cancelFirst := s.run [.userCancel event, .request r data reply]
    openFirst.service.seen openFirst.host.platform id = (false, some .manClose) ∧
    cancelFirst.service.seen cancelFirst.host.platform id = (true, some .opening) ∧
    ∀ schedule,
      let now := (Traffic.start s listing [.request r data, .userCancel event]).run schedule
      let seen := now.shared.service.seen now.shared.platform id
      ((∀ i, now.step? i = none) → now.isDone = true) ∧
      (now.isDone = true →
        (now.visibility = [true, false] ∨ now.visibility = [false, true]) ∧
        (now.statuses id = [.opening, .manClose] ∨ now.statuses id = [.manClose, .opening]) ∧
        seen = (now.visibility.getLast? == some true, (now.statuses id).getLast?) ∧
        ((seen = openFirst.service.seen openFirst.host.platform id ∨
            seen = cancelFirst.service.seen cancelFirst.host.platform id) ↔
          (now.visibility = [true, false] ↔ now.statuses id = [.opening, .manClose]))) := by
  intro id openFirst cancelFirst
  have hOpenFirst : openFirst.service.seen openFirst.host.platform id = (false, some .manClose) :=
    (h.after_request reply).1.after_userCancel.2
  have hCancelFirst : cancelFirst.service.seen cancelFirst.host.platform id =
      (true, some .opening) := (h.after_userCancel.1.after_request reply).2
  refine ⟨hOpenFirst, hCancelFirst, fun schedule => ?_⟩
  intro now seen
  refine ⟨(Traffic.locked_run s listing _ schedule).isDone_of_stuck, fun hDone => ?_⟩
  obtain ⟨hVisibility, hStatuses⟩ := (h.smooth_run listing schedule).orders hDone
  have hShown : seen.1 = (now.visibility.getLast? == some true) := by
    have hLast : seen.1 = now.visibility.getLast?.getD s.host.platform.isShown :=
      Traffic.isShown_run
    rw [hLast]
    rcases hVisibility with hOrder | hOrder <;> rw [hOrder] <;> rfl
  have hStatus : seen.2 = (now.statuses id).getLast? := by
    obtain ⟨x, hFind⟩ := Option.isSome_iff_exists.mp h.known
    obtain ⟨x', hFind', hLast⟩ := Traffic.status_run listing [.request r data, .userCancel event]
      schedule hFind
    have hIs : seen.2 = some x'.status :=
      congrArg (Option.map fun x : Session => x.status) hFind'
    rw [hIs, hLast]
    change some ((now.statuses id).getLast?.getD _) = _
    rcases hStatuses with hOrder | hOrder <;> rw [hOrder] <;> rfl
  have hSeen : seen = (now.visibility.getLast? == some true, (now.statuses id).getLast?) :=
    Prod.ext hShown hStatus
  refine ⟨hVisibility, hStatuses, hSeen, ?_⟩
  rw [hOpenFirst, hCancelFirst, hSeen]
  rcases hVisibility with hShown | hShown <;> rcases hStatuses with hStatus | hStatus <;>
    rw [hShown, hStatus] <;> decide

/-- A request for the notice. -/
def openAgain : Parcel := Parcel.ofBytes (Parcel.textBytes "ohos.multimodalinput.IInjectNotice")

/-- A caller has had the notice shown. -/
def shownBefore : Scene :=
  (Scene.fresh {} .phone).run [.request ⟨⟨7, 9⟩, 0⟩ openAgain {}]

/-- The caller asks for the notice again while the user closes it. -/
theorem meeting_again : Meeting shownBefore ⟨⟨7, 9⟩, 0⟩ openAgain (.ofSettings {}) := by
  have hReachable : shownBefore.Reachable :=
    Scene.reachable_run (Scene.reachable_of_begun (Scene.begun_fresh {} .phone)) _
  have hSettings : shownBefore.service.settings = {} := by
    unfold shownBefore
    rw [(Scene.service_run _ _).1]
    rfl
  have hFailing : shownBefore.host.platform.failing = [] := by decide +kernel
  have hFaults : shownBefore.host.platform.faults = [] := by decide +kernel
  refine ⟨hReachable, ⟨?_, ?_, ?_⟩, ?_, ?_, ?_⟩
  · decide +kernel
  · decide +kernel
  · decide +kernel
  · decide +kernel
  · rw [hSettings]
    exact (CloseEvent.isFor_iff _ _).mpr ⟨rfl, rfl⟩
  · exact fun _ hNotice => Platform.accepts_of_faultless hFailing hFaults hNotice

/-- The request and the close event, given turns in this order. -/
def closedMeanwhile (schedule : List Nat) : Traffic :=
  (Traffic.start shownBefore ⟨id, fun _ => .refl _⟩
    [.request ⟨⟨7, 9⟩, 0⟩ openAgain, .userCancel (.ofSettings {})]).run schedule

/-- The user closes the notice when the request has shown it and not yet told so. -/
def toldLate : List Nat := [0, 0, 0, 0, 0, 1, 1, 1, 1, 1, 1, 0, 0]

/-- Then the session says that a notice is shown which is not. -/
theorem hidden_and_opening :
    Meeting shownBefore ⟨⟨7, 9⟩, 0⟩ openAgain (.ofSettings {}) ∧
    (closedMeanwhile toldLate).isDone = true ∧
    (closedMeanwhile toldLate).shared.service.seen (closedMeanwhile toldLate).shared.platform
      (Caller.connectId ⟨7, 9⟩) = (false, some .opening) := by
  have hDone : (closedMeanwhile toldLate).isDone = true := by decide +kernel
  have hVisibility : (closedMeanwhile toldLate).visibility = [true, false] := by decide +kernel
  have hStatuses : (closedMeanwhile toldLate).statuses (Caller.connectId ⟨7, 9⟩) =
      [.manClose, .opening] := by
    decide +kernel
  refine ⟨meeting_again, hDone, ?_⟩
  unfold closedMeanwhile at hDone hVisibility hStatuses ⊢
  have hRun := (cancel_meets_request meeting_again ⟨id, fun _ => .refl _⟩ {}).2.2 toldLate
  have hSeen := (hRun.2 hDone).2.2.1
  dsimp only at hSeen
  rw [hSeen, hVisibility, hStatuses]
  rfl

/-- What is seen need not be what is seen after one and then the other: the request comes between
the calls of the close event and the change of the sessions. -/
theorem cancel_is_not_atomic :
    ¬ ∀ (s : Scene) (r : Service.Request) (data : Parcel) (event : CloseEvent),
      Meeting s r data event → ∀ (listing : Listing) (reply : Parcel) (schedule : List Nat),
      let id := r.caller.connectId
      let openFirst := s.run [.request r data reply, .userCancel event]
      let cancelFirst := s.run [.userCancel event, .request r data reply]
      let now := (Traffic.start s listing [.request r data, .userCancel event]).run schedule
      now.isDone = true →
        now.shared.service.seen now.shared.platform id =
            openFirst.service.seen openFirst.host.platform id ∨
          now.shared.service.seen now.shared.platform id =
            cancelFirst.service.seen cancelFirst.host.platform id := by
  intro hAtomic
  have hOneOf := hAtomic shownBefore ⟨⟨7, 9⟩, 0⟩ openAgain (.ofSettings {}) meeting_again
    ⟨id, fun _ => .refl _⟩ {} [1, 1, 1, 0, 0, 0, 0, 0, 0, 0, 1, 1, 1] (by decide +kernel)
  rcases hOneOf with hFirst | hSecond
  · exact absurd hFirst (by decide +kernel)
  · exact absurd hSecond (by decide +kernel)

end Meeting

end Notice

end DevicePower
