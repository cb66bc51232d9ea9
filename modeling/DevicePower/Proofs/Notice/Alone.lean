import DevicePower.Proofs.Notice.Traffic

/-!
# A thread that nobody disturbs

If no other thread acts meanwhile, the steps of a request come to what handling the request does,
and the same holds of a close event and of the end of the service. So the steps are those
operations, cut where others may act. The locks that are held are the same afterwards.

The order in which sessions are gone through makes no difference, since each of them is changed
once.

## Main results

* `Reaches.run`: a thread comes there if only it is given turns.
* `reaches_onRequest`, `reaches_userCancel`, `reaches_destroy`: what the steps come to.
-/

namespace DevicePower.Notice

namespace Table

variable {t : Table} {f : Session → Session} {ids : List ConnectId}

/-- Where a change is the same made twice, the sessions of some connections can be changed one after
the other. -/
theorem foldl_modify (hCaller : ∀ x, (f x).caller = x.caller) (hTwice : ∀ x, f (f x) = f x)
    (ids : List ConnectId) (t : Table) :
    ids.foldl (fun t id => t.modify id f) t =
      { t with sessions := t.sessions.map fun x => if x.connectId ∈ ids then f x else x } := by
  induction ids generalizing t with
  | nil => simp
  | cons id rest ih =>
    have hSame : ∀ x : Session, (f x).connectId = x.connectId :=
      fun x => congrArg Caller.connectId (hCaller x)
    have hEach : ∀ x : Session,
        (if (if x.connectId == id then f x else x).connectId ∈ rest
          then f (if x.connectId == id then f x else x)
          else if x.connectId == id then f x else x) =
        if x.connectId ∈ id :: rest then f x else x := by
      intro x
      by_cases hIs : x.connectId = id
      · simp [hIs, hSame, hTwice]
      · simp [hIs]
    rw [List.foldl_cons, ih]
    unfold modify
    simp only [List.map_map, Function.comp_def, hEach]

/-- Changing one session of the table after the other changes every one of them. -/
theorem foldl_modify_live (hCaller : ∀ x, (f x).caller = x.caller) (hTwice : ∀ x, f (f x) = f x)
    (hPerm : ids.Perm t.liveIds) : ids.foldl (fun t id => t.modify id f) t = t.modifyLive f := by
  unfold liveIds live at hPerm
  unfold modifyLive
  cases hClosed : t.closed with
  | true =>
    rw [hClosed] at hPerm
    rw [List.Perm.eq_nil hPerm]
    rfl
  | false =>
    rw [hClosed] at hPerm
    have hAll : ∀ x ∈ t.sessions, x.connectId ∈ ids :=
      fun x hMem => hPerm.mem_iff.mpr (List.mem_map.mpr ⟨x, hMem, rfl⟩)
    have hMap : (t.sessions.map fun x => if x.connectId ∈ ids then f x else x) =
        t.sessions.map f := List.map_congr_left fun x hMem => if_pos (hAll x hMem)
    rw [foldl_modify hCaller hTwice, hMap, hClosed]
    rfl

/-- Closing the table leaves the sessions to be changed afterwards. -/
theorem foldl_modify_close (f : Session → Session) (ids : List ConnectId) (t : Table) :
    ids.foldl (fun t id => t.modify id f) t.close.2 =
      (ids.foldl (fun t id => t.modify id f) t).close.2 := by
  induction ids generalizing t with
  | nil => rfl
  | cons id rest ih => exact ih (t.modify id f)

/-- Whether the session of a caller that has been served is retired. -/
theorem isRetired_served (caller : Caller) (now : Nat) (hCaller : ∀ x, (f x).caller = x.caller)
    (hRetired : ∀ x, (f x).retired = x.retired) :
    (t.served caller now f).isRetired caller.connectId = (t.session caller now).retired := by
  unfold isRetired
  rw [find?_served_self t caller now hCaller, Option.any_some, hRetired]

end Table

/-- The same with more calls on record. -/
def Shared.recorded (s : Shared) (cs : List Call) : Shared :=
  { s with platform := s.platform.recorded cs }

/-- A lock that was taken is released. -/
theorem Shared.release_take (s : Shared) (id : ConnectId) (f : Session → Session) :
    ((s.take id).modify id f).release id = s.modify id f := by
  unfold release take modify withTable
  dsimp only
  rw [List.erase_cons_head]

namespace Thread

/-- Where a thread can come by steps of its own, if no other thread acts meanwhile. -/
inductive Reaches (listing : Listing) : Shared → Thread → Shared → Thread → Prop
  | refl (s : Shared) (thread : Thread) : Reaches listing s thread s thread
  | step {s s' s'' : Shared} {thread thread' thread'' : Thread} (deed : Deed)
    (first : thread.step? listing s = some (s', thread', deed))
    (rest : Reaches listing s' thread' s'' thread'') : Reaches listing s thread s'' thread''

variable {listing : Listing} {s s' s'' : Shared} {thread thread' thread'' : Thread}

theorem Reaches.single (deed : Deed) (h : thread.step? listing s = some (s', thread', deed)) :
    Reaches listing s thread s' thread' :=
  .step deed h (.refl s' thread')

theorem Reaches.trans (first : Reaches listing s thread s' thread')
    (second : Reaches listing s' thread' s'' thread'') : Reaches listing s thread s'' thread'' := by
  induction first with
  | refl => exact second
  | step deed hStep _ ih => exact .step deed hStep (ih second)

/-- A thread comes there if only it is given turns. -/
theorem Reaches.run (h : Reaches listing s thread s' thread') {t : Traffic} {i : Nat}
    (hListing : t.listing = listing) (hShared : t.shared = s)
    (hThread : t.threads[i]? = some thread) :
    ∃ n, (t.run (List.replicate n i)).shared = s' ∧
      (t.run (List.replicate n i)).threads = t.threads.set i thread' := by
  induction h generalizing t with
  | refl s thread =>
    obtain ⟨hLength, hIs⟩ := List.getElem?_eq_some_iff.mp hThread
    exact ⟨0, hShared, by rw [← hIs, List.set_getElem_self]; rfl⟩
  | @step s s' _ thread thread' _ deed first _ ih =>
    have hGo : t.go i = t.stepped i s' thread' deed := by
      unfold Traffic.go Traffic.step?
      rw [hThread, Option.bind_some, hListing, hShared, first]
      rfl
    have hNext : (t.go i).threads[i]? = some thread' := by
      rw [hGo]
      exact List.getElem?_set_self (List.getElem?_eq_some_iff.mp hThread).1
    obtain ⟨n, hThere, hThreads⟩ := ih (t := t.go i) (by rw [hGo]; exact hListing)
      (by rw [hGo]; rfl) hNext
    refine ⟨n + 1, hThere, hThreads.trans ?_⟩
    rw [hGo]
    exact List.set_set thread'

/-! ## Calls one by one -/

/-- A thread that makes calls one by one records those that are accepted, up to a crash. -/
theorem reaches_calls (listing : Listing) (calling : Bool → List Call → Thread) (crashed : Thread)
    (hCall : ∀ (s : Shared) (call : Call) (left : List Call) (refused : Bool),
      (calling refused (call :: left)).step? listing s =
        some (s.ask call,
          if s.platform.crashes call then crashed
          else calling (refused || !s.platform.accepts call) left,
          s.asked call))
    (left : List Call) : ∀ (s : Shared) (refused : Bool),
    Reaches listing s (calling refused left) (s.recorded (s.platform.acceptedOf left))
      (if left.any s.platform.crashes then crashed
        else calling (refused || left.any fun c => !s.platform.accepts c) []) := by
  induction left with
  | nil =>
    intro s refused
    have hSame : s.recorded (s.platform.acceptedOf []) = s := by
      unfold Shared.recorded
      exact congrArg (fun p => { s with platform := p }) (Platform.recorded_nil s.platform)
    rw [hSame, List.any_nil, List.any_nil, Bool.or_false]
    exact .refl s _
  | cons call rest ih =>
    intro s refused
    have hAsk : s.ask call = s.recorded (s.platform.acceptedOf [call]) :=
      congrArg (fun p => { s with platform := p }) (Platform.attempt_eq_recorded s.platform call)
    have hAnswer : (s.ask call).platform.answer = s.platform.answer :=
      funext fun other => Platform.answer_attempt s.platform call other
    refine .step (s.asked call) (hCall s call rest refused) ?_
    cases hCrash : s.platform.crashes call with
    | true =>
      have hNone : s.platform.acceptedOf (call :: rest) = s.platform.acceptedOf [call] := by
        rw [Platform.acceptedOf_cons_of_crashed (Platform.crashes_iff.mp hCrash),
          Platform.acceptedOf_cons_of_crashed (Platform.crashes_iff.mp hCrash)]
      rw [List.any_cons, hCrash, Bool.true_or, if_pos rfl, if_pos rfl, hAsk, hNone]
      exact .refl _ _
    | false =>
      have hRest := ih (s.ask call) (refused || !s.platform.accepts call)
      have hSame : (s.ask call).platform.crashes = s.platform.crashes := by
        unfold Platform.crashes
        rw [hAnswer]
      have hSame' : (s.ask call).platform.accepts = s.platform.accepts := by
        unfold Platform.accepts
        rw [hAnswer]
      have hThere : (s.ask call).recorded ((s.ask call).platform.acceptedOf rest) =
          s.recorded (s.platform.acceptedOf (call :: rest)) := by
        rw [Platform.acceptedOf_congr hAnswer, Platform.acceptedOf_cons_of_calm hCrash, hAsk]
        unfold Shared.recorded
        rw [Platform.recorded_recorded]
      rw [hThere, hSame, hSame', Bool.or_assoc] at hRest
      rw [if_neg Bool.false_ne_true, List.any_cons, List.any_cons, hCrash, Bool.false_or]
      exact hRest

/-! ## A request -/

section Request

variable {r : Service.Request} {data : Parcel} {c : Command} {h : Host}

/-- What is shared once a request has changed its session and asked the platform. -/
def served (s : Shared) (r : Service.Request) (f : Session → Session) (p : Platform) : Shared :=
  { s with
    service := { s.service with table := s.service.table.served r.caller s.now f }, platform := p }

/-- A request that is taken comes to have the lock, and is counted. -/
theorem reaches_counted (hTakes : s.service.Takes r data c) (hFree : r.caller.connectId ∉ s.taken) :
    Reaches listing s (request r data .arrived)
      ((served s r (fun x => x.counted) s.platform).take r.caller.connectId)
      (request r data (.counted c)) := by
  have hAdmitted : (request r data .arrived).step? listing s =
      some (s.withTable (s.service.table.entered r.caller s.now), request r data (.admitted c),
        .passed) := by
    obtain ⟨made, hOpen⟩ := Table.open?_of_open hTakes.open_eq r.caller s.now
    rw [step?, Shared.request?, if_neg (not_not_intro hTakes.token_eq), hTakes.command_eq]
    dsimp only
    rw [hOpen]
    rfl
  have hStillFree :
      r.caller.connectId ∉ (s.withTable (s.service.table.entered r.caller s.now)).taken := hFree
  have hCounted : (request r data (.admitted c)).step? listing
      (s.withTable (s.service.table.entered r.caller s.now)) =
      some ((served s r (fun x => x.counted) s.platform).take r.caller.connectId,
        request r data (.counted c), .passed) := by
    rw [step?, Shared.request?, if_neg hStillFree]
    rfl
  exact .step .passed hAdmitted (.single .passed hCounted)

/-- The lock that a request took for itself is released. -/
theorem reaches_left {f : Session → Session} {p : Platform} {reply : Reply} :
    Reaches listing ((served s r f p).take r.caller.connectId) (request r data (.leaving reply))
      (served s r f p) (request r data (.answered reply)) := by
  have hReleased : ((served s r f p).take r.caller.connectId).release r.caller.connectId =
      served s r f p := by
    unfold Shared.release Shared.take
    dsimp only
    rw [List.erase_cons_head]
  refine .single .passed ?_
  rw [step?, Shared.request?, hReleased]
  rfl

/-- A request that is taken in a session that is not retired comes to make its calls. -/
theorem reaches_calling (hTakes : s.service.Takes r data c) (hFree : r.caller.connectId ∉ s.taken)
    (hRetired : (s.service.table.session r.caller s.now).retired = false) :
    Reaches listing s (request r data .arrived)
      ((served s r (Session.noted (s.service.presenter.pid? data) none) s.platform).take
        r.caller.connectId)
      (request r data (.calling c
        (s.service.presenter.calls ((s.service.presenter.pid? data).or
          (s.service.table.session r.caller s.now).lastPid) c) false)) := by
  have hNot : (s.service.table.served r.caller s.now fun x => x.counted).isRetired
      r.caller.connectId = false := by
    rw [Table.isRetired_served r.caller s.now Session.caller_counted fun _ => rfl, hRetired]
  have hCleared : (request r data (.counted c)).step? listing
      ((served s r (fun x => x.counted) s.platform).take r.caller.connectId) =
      some ((served s r (fun x => x.counted) s.platform).take r.caller.connectId,
        request r data (.cleared c), .passed) := by
    rw [step?, Shared.request?]
    unfold Shared.take served
    dsimp only
    rw [hNot]
    rfl
  have hNoted : (s.service.table.served r.caller s.now fun x => x.counted).modify
      r.caller.connectId (Session.told (s.service.presenter.pid? data)) =
      s.service.table.served r.caller s.now
        (Session.noted (s.service.presenter.pid? data) none) :=
    Table.modify_modify _ _ Session.caller_counted
  have hTold : (request r data (.cleared c)).step? listing
      ((served s r (fun x => x.counted) s.platform).take r.caller.connectId) =
      some ((served s r (Session.noted (s.service.presenter.pid? data) none) s.platform).take
          r.caller.connectId,
        request r data (.calling c
          (s.service.presenter.calls ((s.service.presenter.pid? data).or
            (s.service.table.session r.caller s.now).lastPid) c) false),
        .passed) := by
    rw [step?, Shared.request?]
    unfold Shared.modify Shared.withTable Shared.take served
    dsimp only
    rw [hNoted, Table.find?_served_self _ _ _ (Session.caller_noted _ none)]
    rfl
  exact (reaches_counted hTakes hFree).trans (.step .passed hCleared (.single .passed hTold))

/-- A request that is taken in a session that is not retired makes its calls, up to a crash. -/
theorem reaches_made (listing : Listing) (hTakes : s.service.Takes r data c)
    (hFree : r.caller.connectId ∉ s.taken)
    (hRetired : (s.service.table.session r.caller s.now).retired = false) (calls : List Call)
    (hCalls : s.service.presenter.calls ((s.service.presenter.pid? data).or
      (s.service.table.session r.caller s.now).lastPid) c = calls) :
    Reaches listing s (request r data .arrived)
      ((served s r (Session.noted (s.service.presenter.pid? data) none)
        (s.platform.recorded (s.platform.acceptedOf calls))).take r.caller.connectId)
      (if calls.any s.platform.crashes then request r data (.leaving .failed)
        else request r data (.calling c [] (calls.any fun call => !s.platform.accepts call))) := by
  have hMade := reaches_calls listing
    (fun refused left => request r data (.calling c left refused))
    (request r data (.leaving .failed)) ?_ calls
    ((served s r (Session.noted (s.service.presenter.pid? data) none) s.platform).take
      r.caller.connectId) false
  · rw [Bool.false_or] at hMade
    rw [← hCalls] at hMade ⊢
    exact (reaches_calling hTakes hFree hRetired).trans hMade
  · intro s call left refused
    rw [step?, Shared.request?, Option.map_some]
    dsimp only
    rw [apply_ite (request r data)]

/-- A request that was carried out gives the session its status. -/
theorem reaches_settled {f : Session → Session} {p : Platform} {refused : Bool}
    (hRefused : c = .openNotice → refused = false) (hCaller : ∀ x, (f x).caller = x.caller) :
    Reaches listing ((served s r f p).take r.caller.connectId)
      (request r data (.calling c [] refused))
      (served s r (fun x => (f x).become c.status) p) (request r data (.answered .success)) := by
  have hTable : (s.service.table.served r.caller s.now f).modify r.caller.connectId
      (fun x => x.become c.status) =
      s.service.table.served r.caller s.now fun x => (f x).become c.status :=
    Table.modify_modify _ _ hCaller
  have hSettled : (request r data (.calling c [] refused)).step? listing
      ((served s r f p).take r.caller.connectId) =
      some ((served s r (fun x => (f x).become c.status) p).take r.caller.connectId,
        request r data (.leaving .success), .became r.caller.connectId c.status) := by
    rw [step?, Shared.request?, if_neg fun hBoth => by simp [hRefused hBoth.1] at hBoth]
    unfold Shared.modify Shared.withTable Shared.take served
    dsimp only
    rw [hTable]
    rfl
  exact .step (.became r.caller.connectId c.status) hSettled reaches_left

/-- A request for the notice that was refused leaves the session's status alone. -/
theorem reaches_unsettled {f : Session → Session} {p : Platform} :
    Reaches listing ((served s r f p).take r.caller.connectId)
      (request r data (.calling .openNotice [] true)) (served s r f p)
      (request r data (.answered .failed)) := by
  refine .step .passed ?_ reaches_left
  rw [step?, Shared.request?, if_pos ⟨rfl, rfl⟩]
  rfl

/-- Alone, the steps of a request come to what handling it does. -/
theorem reaches_onRequest (hPlatform : h.platform = s.platform) (hNow : h.now = s.now)
    (hFree : r.caller.connectId ∉ s.taken) (reply : Parcel) :
    ∃ answer rest written service h',
      s.service.onRequest r data reply h = (answer, rest, written, service, h') ∧
      Reaches listing s (request r data .arrived)
        { s with service := service, platform := h'.platform }
        (request r data (.answered answer)) := by
  obtain ⟨answer, rest, t, h', hEq, hAnswered, -⟩ := s.service.onRequest_cases r data reply h
  refine ⟨_, _, _, _, _, hEq, ?_⟩
  generalize h'.platform = p at hAnswered
  clear hEq
  obtain ⟨platform, origin, now, journal⟩ := h
  subst hPlatform hNow
  cases hAnswered with
  | mismatch hToken =>
    refine .single .passed ?_
    rw [step?, Shared.request?, if_pos hToken]
    rfl
  | unsupported hToken hCommand =>
    refine .single .passed ?_
    rw [step?, Shared.request?, if_neg (not_not_intro hToken), hCommand]
    rfl
  | destroyed hToken hCommand hClosed =>
    refine .single .passed ?_
    rw [step?, Shared.request?, if_neg (not_not_intro hToken), hCommand]
    dsimp only
    rw [Table.open?_of_closed hClosed]
    rfl
  | retired hTakes hRetired =>
    have hIs : (s.service.table.served r.caller s.now fun x => x.counted).isRetired
        r.caller.connectId = true := by
      rw [Table.isRetired_served r.caller s.now Session.caller_counted fun _ => rfl]
      exact hRetired
    refine (reaches_counted hTakes hFree).trans (.step .passed ?_ reaches_left)
    rw [step?, Shared.request?]
    unfold Shared.take served
    dsimp only
    rw [hIs]
    rfl
  | @opened hTakes hRetired accepted hAccepted =>
    have hMade := reaches_made listing hTakes hFree hRetired
      [s.service.showCall r data s.now] rfl
    rw [Platform.attempt_eq_recorded]
    dsimp only at hAccepted hMade ⊢
    generalize s.service.showCall r data s.now = call at hAccepted hMade ⊢
    rw [List.any_cons, List.any_nil, Bool.or_false, List.any_cons, List.any_nil, Bool.or_false,
      hAccepted] at hMade
    refine hMade.trans ?_
    cases accepted with
    | true =>
      have hCalm : s.platform.crashes call = false := by
        unfold Platform.crashes
        rw [Platform.accepts_iff.mp hAccepted]
      rw [hCalm]
      exact reaches_settled (fun _ => rfl) (Session.caller_noted _ none)
    | false =>
      cases s.platform.crashes call with
      | true => exact reaches_left
      | false => exact reaches_unsettled
  | @closed hTakes hRetired crashed hCrashed =>
    refine (reaches_made listing hTakes hFree hRetired _ rfl).trans ?_
    have hAny : s.service.presenter.closing.any s.platform.crashes = crashed := hCrashed
    unfold Presenter.calls
    dsimp only
    rw [hAny]
    cases crashed with
    | true => exact reaches_left
    | false => exact reaches_settled (fun hShows => by cases hShows) (Session.caller_noted _ none)

end Request

/-! ## A close event -/

/-- A close event changes one listed session after the other. -/
theorem reaches_marked (listing : Listing) (event : CloseEvent) (ids : List ConnectId) :
    ∀ s : Shared,
    Reaches listing s (userCancel event (.marking ids))
      (s.withTable (ids.foldl (fun t id => t.modify id fun x => x.become .manClose)
        s.service.table))
      (userCancel event (.marking [])) := by
  induction ids with
  | nil => exact fun s => .refl s _
  | cons id rest ih =>
    exact fun s => .step (.became id .manClose) rfl (ih (s.modify id _))

/-- Alone, the steps of a close event come to what the service does at it. -/
theorem reaches_userCancel {h : Host} (hPlatform : h.platform = s.platform) (event : CloseEvent) :
    ∃ outcome service h', s.service.userCancel event h = (outcome, service, h') ∧
      Reaches listing s (userCancel event .arrived)
        { s with service := service, platform := h'.platform }
        (userCancel event (.ended outcome)) := by
  cases hFor : event.isFor s.service.settings with
  | false =>
    refine ⟨_, _, _, s.service.userCancel_of_not_isFor h hFor, ?_⟩
    rw [hPlatform]
    refine .single .passed ?_
    rw [step?, Shared.userCancel?, hFor]
    rfl
  | true =>
    obtain ⟨h', hEq, hLeft⟩ := s.service.userCancel_cases h hFor rfl
    refine ⟨_, _, _, hEq, ?_⟩
    rw [hLeft, hPlatform]
    have hMeant : (userCancel event .arrived).step? listing s =
        some (s, userCancel event (.calling s.service.presenter.dismissal), .passed) := by
      rw [step?, Shared.userCancel?, hFor]
      rfl
    have hMade := reaches_calls listing (fun _ left => userCancel event (.calling left))
      (userCancel event (.ended (.error .crashed))) ?_ s.service.presenter.dismissal s false
    · refine .step .passed hMeant (hMade.trans ?_)
      cases s.service.presenter.dismissal.any s.platform.crashes with
      | true => exact .refl _ _
      | false =>
        have hMarked := reaches_marked listing event
          (listing.order s.service.table.liveIds)
          (s.recorded (s.platform.acceptedOf s.service.presenter.dismissal))
        have hTable := Table.foldl_modify_live (t := s.service.table)
          (f := fun x => x.become .manClose) (fun _ => rfl) (fun _ => rfl)
          (listing.perm s.service.table.liveIds)
        dsimp only [Shared.recorded] at hMarked
        rw [hTable] at hMarked
        exact .step .passed rfl (hMarked.trans (.single .passed rfl))
    · intro s call left refused
      rw [step?, Shared.userCancel?, Option.map_some]
      dsimp only
      rw [apply_ite (userCancel event)]

/-! ## The end of the service -/

/-- The end of the service retires one session after the other. -/
theorem reaches_retired (listing : Listing) (ids : List ConnectId) :
    ∀ s : Shared, (∀ id ∈ ids, id ∉ s.taken) →
    Reaches listing s (destroy (.retiring ids))
      (s.withTable (ids.foldl (fun t id => t.modify id fun x => x.retire) s.service.table))
      (destroy (.retiring [])) := by
  induction ids with
  | nil => exact fun s _ => .refl s _
  | cons id rest ih =>
    intro s hFree
    have hLocked : (destroy (.retiring (id :: rest))).step? listing s =
        some (s.take id, destroy (.holding id rest), .passed) := by
      rw [step?, Shared.destroy?, if_neg (hFree id List.mem_cons_self)]
      rfl
    have hLeft : (destroy (.leaving id rest)).step? listing
        ((s.take id).modify id fun x => x.retire) =
        some (s.modify id fun x => x.retire, destroy (.retiring rest), .passed) := by
      rw [step?, Shared.destroy?, Shared.release_take]
      rfl
    refine .step .passed hLocked (.step .passed rfl (.step .passed hLeft ?_))
    exact ih (s.modify id _) fun other hMem => hFree other (List.mem_cons_of_mem id hMem)

/-- Alone, the steps of the end of the service come to what ending it does. -/
theorem reaches_destroy {h : Host} (hPlatform : h.platform = s.platform)
    (hFree : ∀ id ∈ s.service.table.liveIds, id ∉ s.taken) :
    ∃ outcome service h', s.service.destroy h = (outcome, service, h') ∧
      Reaches listing s (destroy .arrived)
        { s with service := service, platform := h'.platform } (destroy (.ended outcome)) := by
  obtain ⟨outcome, h', hEq, hLeft⟩ := s.service.destroy_cases h
  refine ⟨_, _, _, hEq, ?_⟩
  have hOutcome : outcome =
      if s.service.presenter.dismissal.any s.platform.crashes then .error .crashed else .ok () := by
    rw [← hPlatform, ← s.service.destroy_outcome h, hEq]
  have hTable : (listing.order s.service.table.liveIds).foldl
      (fun t id => t.modify id fun x => x.retire) s.service.table.close.2 =
      s.service.table.ended := by
    rw [Table.foldl_modify_close, Table.foldl_modify_live Session.caller_retire (fun _ => rfl)
      (listing.perm _)]
    rfl
  have hRetired := reaches_retired listing (listing.order s.service.table.liveIds)
    (s.withTable s.service.table.close.2)
    fun id hMem => hFree id ((listing.perm _).mem_iff.mp hMem)
  rw [show (s.withTable s.service.table.close.2).service.table = s.service.table.close.2 from rfl,
    hTable] at hRetired
  have hMade : Reaches listing (s.withTable s.service.table.ended)
      (destroy (.calling s.service.presenter.dismissal))
      ((s.withTable s.service.table.ended).recorded
        (s.platform.acceptedOf s.service.presenter.dismissal))
      (if s.service.presenter.dismissal.any s.platform.crashes
        then destroy (.ended (.error .crashed)) else destroy (.calling [])) := by
    refine reaches_calls listing (fun _ left => destroy (.calling left)) _ ?_ _ _ false
    intro s call left refused
    rw [step?, Shared.destroy?, Option.map_some]
    dsimp only
    rw [apply_ite destroy]
  refine .step .passed rfl (hRetired.trans (.step .dismissing rfl
    (hMade.trans ?_)))
  rw [hLeft, hPlatform, hOutcome]
  cases s.service.presenter.dismissal.any s.platform.crashes with
  | true => exact .refl _ _
  | false => exact .single .passed rfl

end Thread

end DevicePower.Notice
