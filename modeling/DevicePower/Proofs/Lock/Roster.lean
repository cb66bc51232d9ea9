import DevicePower.Proofs.Lock.Numbering
import Mathlib.Data.List.Basic

/-!
# The roster of the registry

The registry does not own its locks. It remembers the ones that it made, without keeping them, and a
lock is gone with its last handle. What it remembers of locks that are gone it forgets at two
moments only: when it makes a lock, and when it is looked at. `Watched` has this memory beside a
scene.

What a look has to show is said from the history alone: how many locks were made and which handles
were copied and dropped. The lines of that roster and the entries of the registry change alike with
every action, so they agree in every run.

## Main results

* `Registry.roster_clone`, `Registry.roster_drop`, `rosterOf_clone`, `rosterOf_drop`: the same
  change on both sides.
* `rostered_after`: the entries of the registry are what the history says.
* `entryAt?_after`: an action leaves the entries of other locks as they are.
* `inOrder_run`: numbers, looks, and what is forgotten.
-/

namespace DevicePower.Lock

/-- An action makes a lock, or it does not. -/
theorem Action.create_or_ne (a : Action) :
    (∃ name kind, a = .create name kind) ∨ ∀ name kind, a ≠ .create name kind := by
  cases a with
  | create name kind => exact Or.inl ⟨name, kind, rfl⟩
  | _ => exact Or.inr fun _ _ => nofun

/-- The lock that an action is about. -/
def Action.subject? : Action → Option Nat
  | clone id => some id
  | drop id => some id
  | a => a.lock?

/-! ## What the history says -/

/-- The name and the kind of the lock that was made, if one was. -/
def Event.made? (e : Event) : Option (String × Kind) :=
  match e.action, e.outcome with
  | .create name kind, .ok () => some (name, kind)
  | _, _ => none

/-- The names and kinds of the locks that were made, the first one first. -/
def made (history : List Event) : List (String × Kind) := (history.filterMap Event.made?).reverse

/-- The number of handles of a lock. A lock is made with one handle, and only a handle that is there
can be copied or dropped. -/
def handlesOf (id : Nat) : List Event → Nat
  | [] => 0
  | e :: earlier =>
    let before := handlesOf id earlier
    match e.action with
    | .create _ _ => if e.made?.isSome ∧ (made earlier).length + 1 = id then 1 else before
    | .clone copied => if copied = id ∧ 0 < before then before + 1 else before
    | .drop dropped => if dropped = id then before - 1 else before
    | _ => before

/-- A lock with at least one handle. -/
structure Line where
  id : Nat
  name : String
  kind : Kind
  handles : Nat
deriving DecidableEq

namespace Line

/-- The line with a handle more, if it is about a lock. -/
def copied (id : Nat) (l : Line) : Line :=
  if l.id = id then { l with handles := l.handles + 1 } else l

/-- The line with a handle less, if it is about a lock. -/
def dropped (id : Nat) (l : Line) : Line :=
  if l.id = id then { l with handles := l.handles - 1 } else l

end Line

/-- The locks that have a handle, in the order in which they were made. The first lock has number
one, and no number is left out. -/
def rosterOf (history : List Event) : List Line :=
  (((made history).zipIdx 1).filter fun m => 0 < handlesOf m.2 history).map fun m =>
    ⟨m.2, m.1.1, m.1.2, handlesOf m.2 history⟩

theorem made_cons (e : Event) (history : List Event) :
    made (e :: history) = made history ++ e.made?.toList := by
  unfold made
  cases hMade : e.made? with
  | none => rw [List.filterMap_cons_none hMade, Option.toList_none, List.append_nil]
  | some lock => rw [List.filterMap_cons_some hMade, List.reverse_cons, Option.toList_some]

theorem made_cons_of_none {e : Event} (history : List Event) (hNone : e.made? = none) :
    made (e :: history) = made history := by
  rw [made_cons, hNone, Option.toList_none, List.append_nil]

/-- A lock that has not been made has no handle. -/
theorem handlesOf_eq_zero {id : Nat} {history : List Event} (hId : (made history).length < id) :
    handlesOf id history = 0 := by
  induction history with
  | nil => rfl
  | cons e earlier ih =>
    have hLength := congrArg List.length (made_cons e earlier)
    rw [List.length_append] at hLength
    have hBefore : handlesOf id earlier = 0 := ih (by omega)
    unfold handlesOf
    rw [hBefore]
    cases hAction : e.action with
    | create name kind =>
      refine if_neg ?_
      rintro ⟨hMade, hNumber⟩
      obtain ⟨lock, hLock⟩ := Option.isSome_iff_exists.mp hMade
      rw [hLock, Option.toList_some, List.length_singleton] at hLength
      omega
    | clone copied => simp
    | drop dropped => simp
    | _ => rfl

/-- The numbers start at one. -/
theorem handlesOf_zero (history : List Event) : handlesOf 0 history = 0 := by
  induction history with
  | nil => rfl
  | cons e earlier ih =>
    unfold handlesOf
    rw [ih]
    cases hAction : e.action with
    | create name kind => simp
    | clone copied => simp
    | drop dropped => simp
    | _ => rfl

/-- The numbers on the roster are those of the locks that were made and have a handle. -/
theorem ids_rosterOf (history : List Event) :
    (rosterOf history).map (·.id) =
      (List.range' 1 (made history).length).filter fun id => 0 < handlesOf id history := by
  have hIds : ((made history).zipIdx 1).map (·.2) = List.range' 1 (made history).length :=
    List.zipIdx_map_snd 1 _
  unfold rosterOf
  rw [List.map_map, ← hIds, List.filter_map]
  rfl

/-- The roster has exactly the locks with a handle. -/
theorem mem_ids_rosterOf {id : Nat} {history : List Event} :
    id ∈ (rosterOf history).map (·.id) ↔ 0 < handlesOf id history := by
  rw [ids_rosterOf, List.mem_filter, List.mem_range'_1, decide_eq_true_iff, and_iff_right_iff_imp]
  intro hHandles
  have hPositive : id ≠ 0 := by
    rintro rfl
    exact Nat.ne_of_gt hHandles (handlesOf_zero history)
  have hMade : id ≤ (made history).length :=
    Nat.le_of_not_lt fun hLate => Nat.ne_of_gt hHandles (handlesOf_eq_zero hLate)
  omega

/-- The numbers on the roster go up. -/
theorem pairwise_ids_rosterOf (history : List Event) :
    ((rosterOf history).map (·.id)).Pairwise (· < ·) := by
  rw [ids_rosterOf]
  exact (List.pairwise_lt_range' 1).filter _

theorem handles_pos_of_mem_rosterOf {l : Line} {history : List Event}
    (hMem : l ∈ rosterOf history) :
    0 < l.handles := by
  unfold rosterOf at hMem
  obtain ⟨m, hLive, rfl⟩ := List.mem_map.mp hMem
  exact of_decide_eq_true (List.mem_filter.mp hLive).2

/-- The line of a lock has the name and the kind with which it was made. -/
theorem made_of_mem_rosterOf {l : Line} {history : List Event} (hMem : l ∈ rosterOf history) :
    (made history)[l.id - 1]? = some (l.name, l.kind) := by
  unfold rosterOf at hMem
  obtain ⟨m, hLive, rfl⟩ := List.mem_map.mp hMem
  exact (List.mem_zipIdx_iff_le_and_getElem?_sub.mp (List.mem_filter.mp hLive).1).2

/-- A lock without a handle gets none when no lock is made. -/
theorem handlesOf_pos_of_cons {e : Event} {history : List Event} (hMade : e.made? = none) {id : Nat}
    (hHandles : 0 < handlesOf id (e :: history)) : 0 < handlesOf id history := by
  unfold handlesOf at hHandles
  cases hAction : e.action with
  | create name kind => simpa [hAction, hMade] using hHandles
  | clone copied =>
    rw [hAction] at hHandles
    dsimp only at hHandles
    split at hHandles <;> omega
  | drop dropped =>
    rw [hAction] at hHandles
    dsimp only at hHandles
    split at hHandles <;> omega
  | _ =>
    rw [hAction] at hHandles
    exact hHandles

/-- Only creations make locks. -/
theorem made?_of_ne {e : Event} (hAction : ∀ name kind, e.action ≠ .create name kind) :
    e.made? = none := by
  unfold Event.made?
  cases hIs : e.action with
  | create name kind => exact absurd hIs (hAction name kind)
  | _ => rfl

/-- What neither makes a lock nor touches a handle leaves the roster. -/
theorem rosterOf_cons_of_lock? {e : Event} (history : List Event)
    (hAction : e.action.subject? = e.action.lock?)
    (hCreate : ∀ name kind, e.action ≠ .create name kind) :
    rosterOf (e :: history) = rosterOf history := by
  have hHandles : ∀ id, handlesOf id (e :: history) = handlesOf id history := by
    intro id
    conv => lhs; unfold handlesOf
    cases hIs : e.action with
    | create name kind => exact absurd hIs (hCreate name kind)
    | clone copied => rw [hIs] at hAction; cases hAction
    | drop dropped => rw [hIs] at hAction; cases hAction
    | _ => rfl
  unfold rosterOf
  simp only [made_cons_of_none history (made?_of_ne hCreate), hHandles]

/-- A refused creation leaves the roster. -/
theorem rosterOf_cons_of_error {e : Event} (history : List Event) {name : String} {kind : Kind}
    {f : Failure} (hAction : e.action = .create name kind) (hOutcome : e.outcome = .error f) :
    e.made? = none ∧ rosterOf (e :: history) = rosterOf history := by
  have hMade : e.made? = none := by
    unfold Event.made?
    rw [hAction, hOutcome]
  have hHandles : ∀ id, handlesOf id (e :: history) = handlesOf id history := by
    intro id
    conv => lhs; unfold handlesOf
    rw [hAction, hMade]
    exact if_neg fun hBoth => Bool.noConfusion hBoth.1
  refine ⟨hMade, ?_⟩
  unfold rosterOf
  simp only [made_cons_of_none history hMade, hHandles]

/-- A lock is added with its first handle. -/
theorem rosterOf_create {e : Event} (history : List Event) {name : String} {kind : Kind}
    (hAction : e.action = .create name kind) (hOutcome : e.outcome = .ok ()) :
    rosterOf (e :: history) =
      rosterOf history ++ [⟨(made history).length + 1, name, kind, 1⟩] := by
  have hMade : e.made? = some (name, kind) := by
    unfold Event.made?
    rw [hAction, hOutcome]
  have hNew : handlesOf ((made history).length + 1) (e :: history) = 1 := by
    unfold handlesOf
    rw [hAction, hMade]
    exact if_pos ⟨rfl, rfl⟩
  have hOld : ∀ m ∈ (made history).zipIdx 1,
      handlesOf m.2 (e :: history) = handlesOf m.2 history := by
    intro m hMem
    have hBound := List.snd_lt_add_of_mem_zipIdx hMem
    conv => lhs; unfold handlesOf
    rw [hAction]
    exact if_neg fun hIs => by omega
  unfold rosterOf
  rw [made_cons, hMade, Option.toList_some, List.zipIdx_append, List.zipIdx_singleton,
    List.filter_append, List.map_append, Nat.add_comm 1]
  congr 1
  · rw [List.filter_congr fun m hMem => by rw [hOld m hMem]]
    refine List.map_congr_left fun m hMem => ?_
    rw [hOld m (List.mem_filter.mp hMem).1]
  · rw [List.filter_cons_of_pos (by rw [hNew]; rfl), List.filter_nil, List.map_cons, List.map_nil,
      hNew]

/-- A handle more in the history is a handle more on the roster. -/
theorem rosterOf_clone {e : Event} (history : List Event) {id : Nat}
    (hAction : e.action = .clone id) :
    rosterOf (e :: history) = (rosterOf history).map (Line.copied id) := by
  have hMade : e.made? = none := made?_of_ne (by rw [hAction]; exact nofun)
  have hHandles : ∀ i, handlesOf i (e :: history) =
      if id = i ∧ 0 < handlesOf i history then handlesOf i history + 1
        else handlesOf i history := by
    intro i
    conv => lhs; unfold handlesOf
    rw [hAction]
  have hLive : ∀ i, 0 < handlesOf i (e :: history) ↔ 0 < handlesOf i history := by
    intro i
    rw [hHandles]
    split <;> omega
  unfold rosterOf
  simp only [made_cons_of_none history hMade, hLive, List.map_map]
  refine List.map_congr_left fun m hMem => ?_
  have hPositive : 0 < handlesOf m.2 history := of_decide_eq_true (List.mem_filter.mp hMem).2
  rw [hHandles, Function.comp_apply]
  unfold Line.copied
  by_cases hSame : id = m.2
  · rw [if_pos ⟨hSame, hPositive⟩, if_pos hSame.symm]
  · rw [if_neg fun hBoth => hSame hBoth.1, if_neg fun hEq => hSame hEq.symm]

/-- A handle less in the history is a handle less on the roster. With its last handle a lock leaves
the roster. -/
theorem rosterOf_drop {e : Event} (history : List Event) {id : Nat}
    (hAction : e.action = .drop id) :
    rosterOf (e :: history) =
      ((rosterOf history).map (Line.dropped id)).filter fun l => 0 < l.handles := by
  have hMade : e.made? = none := made?_of_ne (by rw [hAction]; exact nofun)
  have hHandles : ∀ i, handlesOf i (e :: history) =
      if id = i then handlesOf i history - 1 else handlesOf i history := by
    intro i
    conv => lhs; unfold handlesOf
    rw [hAction]
  have hLine : ∀ m : (String × Kind) × Nat,
      (⟨m.2, m.1.1, m.1.2, handlesOf m.2 (e :: history)⟩ : Line) =
        Line.dropped id ⟨m.2, m.1.1, m.1.2, handlesOf m.2 history⟩ := by
    intro m
    rw [hHandles]
    unfold Line.dropped
    by_cases hSame : id = m.2
    · rw [if_pos hSame, if_pos hSame.symm]
    · rw [if_neg hSame, if_neg fun hEq => hSame hEq.symm]
  have hLive : ∀ m : (String × Kind) × Nat, decide (0 < handlesOf m.2 (e :: history)) =
      (decide (0 < (Line.dropped id ⟨m.2, m.1.1, m.1.2, handlesOf m.2 history⟩).handles) &&
        decide (0 < handlesOf m.2 history)) := by
    intro m
    rw [← hLine m, hHandles]
    dsimp only
    by_cases hSame : id = m.2
    · rw [if_pos hSame, ← Bool.decide_and]
      exact decide_eq_decide.mpr (by omega)
    · rw [if_neg hSame, Bool.and_self]
  unfold rosterOf
  simp only [made_cons_of_none history hMade, List.map_map, List.filter_map, List.filter_filter]
  rw [List.filter_congr fun m _ => hLive m]
  exact List.map_congr_left fun m _ => hLine m

/-! ## What the registry has -/

namespace Running

/-- The line of a lock with some handles. -/
def line (l : Running) (handles : Nat) : Line := ⟨l.id, l.name, l.kind, handles⟩

theorem line_afterFailure (l : Running) (f : Failure) : (l.afterFailure f).line = l.line := by
  cases f <;> rfl

/-- Nothing that is done with a lock changes its number, its name or its kind. -/
theorem line_hold (l : Running) (timeout : Nat) (h : Host) :
    (l.hold timeout h).2.1.line = l.line := by
  rcases l.hold_cases timeout h with ⟨f, _, hEq⟩ | ⟨h', hEq, _⟩ | ⟨_, _, _, hEq⟩
  · rw [hEq]
    exact l.line_afterFailure f
  · rw [hEq]
    rfl
  · rw [hEq]
    rfl

theorem line_release (l : Running) (h : Host) : (l.release h).2.1.line = l.line := by
  rcases l.release_cases h with ⟨_, hEq⟩ | ⟨f, _, _, hEq⟩ | ⟨h', hEq, _⟩
  · rw [hEq]
    rfl
  · rw [hEq]
    exact l.calmed.line_afterFailure f
  · rw [hEq]
    rfl

theorem line_wake (l : Running) (generation : Nat) (h : Host) :
    (l.wake generation h).1.line = l.line := by
  rcases l.wake_cases generation h with ⟨_, hEq⟩ | ⟨h', hEq, _⟩ | ⟨e, h', hEq, _⟩ | ⟨_, _, _, hEq⟩
  all_goals
    rw [hEq]
    rfl

end Running

namespace Registry

/-- The lines of the locks that are in the registry. -/
def roster (r : Registry) : List Line := r.entries.map fun e => e.lock.line e.handles

/-- A lock that was worked on keeps its line. -/
theorem roster_put {r : Registry} (h : r.Numbered) {id : Nat} {l l' : Running}
    (hFind : r.find? id = some l) (hLine : l'.line = l.line) : (r.put l').roster = r.roster := by
  have hId : l'.id = id := (congrArg (fun f => (f 0).id) hLine).trans (id_of_find? hFind)
  unfold roster put
  rw [List.map_map]
  refine List.map_congr_left fun e hMem => ?_
  dsimp only [Function.comp_apply]
  by_cases hSame : e.lock.id = l'.id
  · have hLock : e.lock = l := by
      have hFound := h.find?_of_mem hMem
      rw [hSame, hId, hFind] at hFound
      exact (Option.some.inj hFound).symm
    rw [if_pos (beq_iff_eq.mpr hSame), hLock]
    exact congrFun hLine e.handles
  · rw [if_neg (by simpa using hSame)]

theorem roster_clone (r : Registry) (id : Nat) :
    (r.clone id).roster = r.roster.map (Line.copied id) := by
  unfold roster clone
  rw [List.map_map, List.map_map]
  refine List.map_congr_left fun e _ => ?_
  dsimp only [Function.comp_apply, Line.copied, Running.line]
  by_cases hSame : e.lock.id = id
  · rw [if_pos (beq_iff_eq.mpr hSame), if_pos hSame]
  · rw [if_neg (by simpa using hSame), if_neg hSame]

/-- The line of the lock whose handle is dropped has one handle less, or goes. -/
theorem roster_drop {r : Registry} (h : r.Numbered) (hLive : ∀ l ∈ r.roster, 0 < l.handles)
    (id : Nat) (host : Host) :
    (r.drop id host).2.1.roster =
      (r.roster.map (Line.dropped id)).filter fun l => 0 < l.handles := by
  have hHandles : ∀ e ∈ r.entries, 0 < e.handles := fun e hMem =>
    hLive _ (List.mem_map.mpr ⟨e, hMem, rfl⟩)
  have hOther : ∀ e : Entry, e.lock.id ≠ id →
      Line.dropped id (e.lock.line e.handles) = e.lock.line e.handles := fun _ hNe => if_neg hNe
  have hSelf : ∀ e : Entry, e.lock.id = id →
      Line.dropped id (e.lock.line e.handles) = e.lock.line (e.handles - 1) :=
    fun _ hEq => if_pos hEq
  unfold Registry.drop roster
  rw [List.map_map, List.filter_map]
  split
  case h_1 hNone =>
    have hNe : ∀ e ∈ r.entries, e.lock.id ≠ id := fun e hMem hEq =>
      List.find?_eq_none.mp hNone e hMem (beq_iff_eq.mpr hEq)
    rw [List.filter_eq_self.mpr]
    · exact List.map_congr_left fun e hMem => (hOther e (hNe e hMem)).symm
    · intro e hMem
      rw [Function.comp_apply, Function.comp_apply, hOther e (hNe e hMem)]
      exact decide_eq_true (hHandles e hMem)
  case h_2 found hFound =>
    have hOnly : ∀ e ∈ r.entries, e.lock.id = id → e = found := by
      intro e hMem hEq
      have hThere := h.entryAt?_of_mem hMem
      rw [hEq] at hThere
      exact Option.some.inj (hThere.symm.trans hFound)
    split
    case isTrue hMore =>
      rw [List.map_map, List.filter_eq_self.mpr]
      · refine List.map_congr_left fun e _ => ?_
        rw [Function.comp_apply, Function.comp_apply]
        by_cases hEq : e.lock.id = id
        · rw [hSelf e hEq, if_pos (beq_iff_eq.mpr hEq)]
        · rw [hOther e hEq, if_neg (by simpa using hEq)]
      · intro e hMem
        rw [Function.comp_apply, Function.comp_apply]
        by_cases hEq : e.lock.id = id
        · rw [hSelf e hEq, hOnly e hMem hEq]
          exact decide_eq_true (Nat.sub_pos_of_lt hMore)
        · rw [hOther e hEq]
          exact decide_eq_true (hHandles e hMem)
    case isFalse hLast =>
      have hKept : ∀ e ∈ r.entries, (e.lock.id != id) =
          decide (0 < (Line.dropped id (e.lock.line e.handles)).handles) := by
        intro e hMem
        by_cases hEq : e.lock.id = id
        · rw [hSelf e hEq, hOnly e hMem hEq, bne_eq_false_iff_eq.mpr (hOnly e hMem hEq ▸ hEq)]
          exact (decide_eq_false (by dsimp only [Running.line]; omega)).symm
        · rw [hOther e hEq, bne_iff_ne.mpr hEq]
          exact (decide_eq_true (hHandles e hMem)).symm
      rw [List.filter_congr hKept]
      refine List.map_congr_left fun e hMem => ?_
      obtain ⟨hThere, hPositive⟩ := List.mem_filter.mp hMem
      rw [← hKept e hThere] at hPositive
      exact (hOther e (bne_iff_ne.mp hPositive)).symm

theorem nextId_drop (r : Registry) (id : Nat) (host : Host) :
    (r.drop id host).2.1.nextId = r.nextId := by
  rcases r.drop_cases id host with ⟨_, hEq⟩ | ⟨r', hEq, hNext, _⟩ | ⟨l, r', _, hEq, hNext, _⟩
  · rw [hEq]
  · rw [hEq]
    exact hNext
  · rw [hEq]
    exact hNext

theorem create_of_ne {r : Registry} {name : String} (hName : name.isEmpty = false) (kind : Kind)
    (h : Host) : ∃ h', r.create name kind h = (.ok r.nextId,
      { nextId := r.nextId + 1
        entries := r.entries ++ [{ lock := { id := r.nextId, name, kind, created := h.now } }] },
      h') := by
  refine ⟨(r.create name kind h).2.2, ?_⟩
  unfold create
  rw [if_neg (by simp [hName])]

end Registry

/-! ## Both agree -/

namespace Scene

/-- The registry has what the history says. -/
structure Rostered (s : Scene) : Prop where
  numbered : s.registry.Numbered
  nextId_eq : s.registry.nextId = (made s.history).length + 1
  roster_eq : s.registry.roster = rosterOf s.history

/-- The numbers in the registry are those on the roster. -/
theorem Rostered.ids_eq {s : Scene} (h : s.Rostered) :
    (rosterOf s.history).map (·.id) = s.registry.entries.map fun e => e.lock.id := by
  rw [← h.roster_eq]
  exact List.map_map

theorem rostered_start (origin : Log.Origin) (supported : List Kind) :
    (start origin supported).Rostered := ⟨Registry.numbered_empty, rfl, rfl⟩

/-- What is neither a creation nor impossible changes the registry as the history says. -/
theorem roster_of_done {s s' : Scene} {a : Action} {o : Outcome Unit} (hDone : Done s a o s')
    (h : s.Rostered) (hCreate : ∀ name kind, a ≠ .create name kind) {e : Event}
    (hAction : e.action = a) :
    s'.registry.nextId = s.registry.nextId ∧ s'.registry.roster = rosterOf (e :: s.history) := by
  have hOther : a.subject? = a.lock? → rosterOf (e :: s.history) = s.registry.roster := by
    intro hSubject
    rw [h.roster_eq]
    exact rosterOf_cons_of_lock? s.history (by rw [hAction]; exact hSubject)
      (by rw [hAction]; exact hCreate)
  cases hDone with
  | create name kind o => exact absurd rfl (hCreate name kind)
  | clone id =>
    refine ⟨rfl, ?_⟩
    rw [s.registry.roster_clone, rosterOf_clone s.history hAction, h.roster_eq]
  | drop id =>
    refine ⟨s.registry.nextId_drop id s.host, ?_⟩
    have hLive : ∀ l ∈ s.registry.roster, 0 < l.handles := by
      rw [h.roster_eq]
      exact fun l => handles_pos_of_mem_rosterOf
    rw [Registry.roster_drop h.numbered hLive, rosterOf_drop s.history hAction, h.roster_eq]
  | @hold id l timeout hLock =>
    exact ⟨rfl, (Registry.roster_put h.numbered hLock (l.line_hold timeout s.host)).trans
      (hOther rfl).symm⟩
  | @release id l hLock =>
    exact ⟨rfl, (Registry.roster_put h.numbered hLock (l.line_release s.host)).trans
      (hOther rfl).symm⟩
  | @wake id l d _ hLock =>
    exact ⟨rfl, (Registry.roster_put h.numbered hLock (l.line_wake d.purpose s.host)).trans
      (hOther rfl).symm⟩
  | _ => exact ⟨rfl, (hOther rfl).symm⟩

/-- A creation without a name leaves nothing but its refusal. -/
theorem after_create_of_isEmpty (s : Scene) {name : String} (kind : Kind)
    (hName : name.isEmpty = true) :
    s.after (.create name kind) = { s with history :=
      ⟨.create name kind, .error (.refused (.invalidArgument emptyNameMessage)), [],
        s.host.now⟩ :: s.history } := by
  unfold after act?
  dsimp only
  rw [s.registry.create_of_isEmpty kind s.host hName]
  dsimp only
  rw [List.drop_length]
  rfl

theorem after_create_of_ne (s : Scene) {name : String} (kind : Kind)
    (hName : name.isEmpty = false) :
    ∃ host calls, s.after (.create name kind) = { s with
      registry :=
        { nextId := s.registry.nextId + 1
          entries := s.registry.entries ++
            [{ lock := { id := s.registry.nextId, name, kind, created := s.host.now } }] }
      host
      history := ⟨.create name kind, .ok (), calls, s.host.now⟩ :: s.history } := by
  obtain ⟨h', hCreate⟩ := Registry.create_of_ne (r := s.registry) hName kind s.host
  refine ⟨h', h'.platform.calls.drop s.host.platform.calls.length, ?_⟩
  unfold after act?
  dsimp only
  rw [hCreate]
  rfl

theorem rostered_after_create {s : Scene} (h : s.Rostered) (name : String) (kind : Kind)
    (hNumbered : (s.after (.create name kind)).registry.Numbered) :
    (s.after (.create name kind)).Rostered := by
  cases hName : name.isEmpty with
  | true =>
    have hRefused := rosterOf_cons_of_error (e := ⟨.create name kind,
      .error (.refused (.invalidArgument emptyNameMessage)), [], s.host.now⟩) s.history rfl rfl
    rw [s.after_create_of_isEmpty kind hName] at hNumbered ⊢
    refine ⟨hNumbered, ?_, ?_⟩
    · rw [made_cons_of_none s.history hRefused.1]
      exact h.nextId_eq
    · rw [hRefused.2]
      exact h.roster_eq
  | false =>
    obtain ⟨host, calls, hAfter⟩ := s.after_create_of_ne kind hName
    rw [hAfter] at hNumbered ⊢
    refine ⟨hNumbered, ?_, ?_⟩
    · rw [made_cons, List.length_append, h.nextId_eq]
      rfl
    · rw [rosterOf_create s.history rfl rfl, ← h.nextId_eq, ← h.roster_eq]
      unfold Registry.roster
      rw [List.map_append]
      rfl

/-- The registry has what the history says, after every action. -/
theorem rostered_after {s : Scene} (h : s.Rostered) (a : Action) : (s.after a).Rostered := by
  rcases s.after_cases a with ⟨_, hSame⟩ | ⟨o, s', hAct, hAfter⟩
  · rw [hSame]
    exact h
  · have hDone : Done s a o s' := done_of_act? hAct
    have hNumbered : s'.registry.Numbered := numbered_of_done hDone h.numbered
    rcases a.create_or_ne with ⟨name, kind, rfl⟩ | hNe
    · refine rostered_after_create h name kind ?_
      rw [hAfter]
      exact hNumbered
    · rw [hAfter]
      obtain ⟨hNext, hRoster⟩ := roster_of_done hDone h hNe (e := ⟨a, o, _, _⟩) rfl
      refine ⟨hNumbered, ?_, hRoster⟩
      rw [made_cons_of_none s.history (made?_of_ne hNe)]
      exact hNext.trans h.nextId_eq

/-! ## Other entries -/

/-- Changing the entry of one lock leaves the entries of the others. -/
theorem entryAt?_mapEntries {r : Registry} (f : Entry → Entry) {id : Nat} {e : Entry}
    (hId : ∀ e, (f e).lock.id = e.lock.id) (hSame : ∀ e, e.lock.id = id → f e = e)
    (hEntry : r.entryAt? id = some e) :
    { r with entries := r.entries.map f }.entryAt? id = some e := by
  unfold Registry.entryAt? at hEntry ⊢
  have hThere : e.lock.id = id := by simpa using List.find?_some hEntry
  dsimp only
  rw [List.find?_map, Function.comp_def]
  simp only [hId]
  rw [hEntry, Option.map_some, hSame e hThere]

theorem entryAt?_put {r : Registry} {id : Nat} {e : Entry} {l : Running} (hOther : l.id ≠ id)
    (hEntry : r.entryAt? id = some e) : (r.put l).entryAt? id = some e := by
  apply entryAt?_mapEntries _ ?_ ?_ hEntry
  · intro e
    by_cases hSame : e.lock.id = l.id
    · rw [if_pos (beq_iff_eq.mpr hSame), hSame]
    · rw [if_neg (by simpa using hSame)]
  · intro e hIs
    rw [if_neg (by simpa [hIs] using hOther.symm)]

theorem entryAt?_drop {r : Registry} {i id : Nat} {e : Entry} (hOther : i ≠ id) (h : Host)
    (hEntry : r.entryAt? id = some e) : (r.drop i h).2.1.entryAt? id = some e := by
  unfold Registry.drop
  split
  · exact hEntry
  · split
    · apply entryAt?_mapEntries _ ?_ ?_ hEntry
      · intro e
        split <;> rfl
      · intro e hIs
        rw [if_neg (by simpa [hIs] using hOther.symm)]
    · unfold Registry.entryAt? at hEntry ⊢
      dsimp only
      rw [find?_filter_of_imp, hEntry]
      intro e hIs
      rw [beq_iff_eq.mp hIs]
      exact bne_iff_ne.mpr hOther.symm

/-- An action leaves the entry of every lock that it is not about. -/
theorem entryAt?_after {s : Scene} {a : Action} {id : Nat} {e : Entry}
    (hOther : a.subject? ≠ some id) (hEntry : s.registry.entryAt? id = some e) :
    (s.after a).registry.entryAt? id = some e := by
  rcases s.after_cases a with ⟨_, hSame⟩ | ⟨o, s', hAct, hAfter⟩
  · rw [hSame]
    exact hEntry
  · have hDone : Done s a o s' := done_of_act? hAct
    have hPut : ∀ {i : Nat} {l l' : Running}, s.lock? i = some l → l'.line = l.line →
        some i ≠ some id → (s.registry.put l').entryAt? id = some e := by
      intro i l l' hLock hLine hNe
      have hId : l'.id = i := (congrArg (fun f => (f 0).id) hLine).trans (id_of_lock? hLock)
      exact entryAt?_put (by rw [hId]; exact fun hEq => hNe (congrArg some hEq)) hEntry
    rw [hAfter]
    dsimp only
    clear hAct hAfter
    cases hDone with
    | create name kind o =>
      dsimp only
      cases hName : name.isEmpty with
      | true =>
        rw [s.registry.create_of_isEmpty kind s.host hName]
        exact hEntry
      | false =>
        obtain ⟨h', hCreate⟩ := Registry.create_of_ne (r := s.registry) hName kind s.host
        rw [hCreate]
        unfold Registry.entryAt? at hEntry ⊢
        rw [List.find?_append, hEntry]
        rfl
    | clone i =>
      apply entryAt?_mapEntries _ ?_ ?_ hEntry
      · intro e
        split <;> rfl
      · intro e hIs
        rw [if_neg (by simpa [hIs] using fun hEq => hOther (congrArg some hEq.symm))]
    | drop i => exact entryAt?_drop (fun hEq => hOther (congrArg some hEq)) s.host hEntry
    | @hold i l timeout hLock => exact hPut hLock (l.line_hold timeout s.host) hOther
    | @release i l hLock => exact hPut hLock (l.line_release s.host) hOther
    | @wake i l d _ hLock => exact hPut hLock (l.line_wake d.purpose s.host) hOther
    | _ => exact hEntry

end Scene

/-! ## A registry that remembers its locks -/

namespace Registry

/-- Whether a lock is still there. -/
def isAlive (r : Registry) (id : Nat) : Bool := (r.find? id).isSome

/-- What is left of what is remembered once the locks that are gone are forgotten. -/
def prune (r : Registry) (refs : List Nat) : List Nat := refs.filter r.isAlive

/-- What is seen of the locks that are remembered and still there, in the order of their numbers. -/
def look (r : Registry) (refs : List Nat) (now : Nat) : List Snapshot :=
  (((r.prune refs).filterMap r.find?).map fun l => l.snapshot now).mergeSort fun a b => a.id ≤ b.id

end Registry

/-- A scene whose registry does not own its locks. -/
structure Watched where
  scene : Scene
  /-- The locks that the registry remembers. They may be gone. -/
  refs : List Nat := []

/-- What happens to a registry: something is done, or it is looked at. -/
inductive Move where
  | act (a : Action)
  | look

namespace Watched

/-- What is remembered after an action. A new lock is remembered, and those that are gone are
forgotten then. -/
def remembered (w : Watched) : Action → List Nat
  | .create name kind =>
    match (w.scene.registry.create name kind w.scene.host).1 with
    | .ok id => w.scene.registry.prune w.refs ++ [id]
    | .error _ => w.refs
  | _ => w.refs

/-- What a look shows. -/
def seen (w : Watched) : List Snapshot := w.scene.registry.look w.refs w.scene.host.now

/-- The registry after a move. -/
def after (w : Watched) : Move → Watched
  | .act a => { scene := w.scene.after a, refs := w.remembered a }
  | .look => { w with refs := w.scene.registry.prune w.refs }

/-- The registry after some moves. -/
def run (w : Watched) (moves : List Move) : Watched := moves.foldl after w

/-- The registry before anything is done. -/
def start (origin : Log.Origin) (supported : List Kind) : Watched :=
  { scene := Scene.start origin supported }

/-- The registry has what the history says, and of the locks that were made those with a handle are
remembered, in the order in which they were made. -/
structure Kept (w : Watched) : Prop where
  rostered : w.scene.Rostered
  live_eq : (w.refs.filter fun id => 0 < handlesOf id w.scene.history) =
    (rosterOf w.scene.history).map (·.id)

theorem isAlive_eq {s : Scene} (h : s.Rostered) :
    s.registry.isAlive = fun id => decide (0 < handlesOf id s.history) := by
  funext id
  rw [Bool.eq_iff_iff, decide_eq_true_iff, ← mem_ids_rosterOf, h.ids_eq, List.mem_map]
  unfold Registry.isAlive Registry.find?
  rw [Option.isSome_map, List.find?_isSome]
  simp only [beq_iff_eq]

theorem Kept.prune_eq {w : Watched} (h : w.Kept) :
    w.scene.registry.prune w.refs = (rosterOf w.scene.history).map (·.id) := by
  unfold Registry.prune
  rw [isAlive_eq h.rostered]
  exact h.live_eq

/-- When exactly the locks with a handle are remembered, they are what is kept. -/
theorem kept_of_refs_eq {w : Watched} (hRostered : w.scene.Rostered)
    (hRefs : w.refs = (rosterOf w.scene.history).map (·.id)) : w.Kept := by
  refine ⟨hRostered, ?_⟩
  rw [hRefs, List.filter_eq_self]
  exact fun id hMem => decide_eq_true (mem_ids_rosterOf.mp hMem)

theorem kept_start (origin : Log.Origin) (supported : List Kind) : (start origin supported).Kept :=
  kept_of_refs_eq (Scene.rostered_start origin supported) rfl

/-- Forgetting the locks that are gone forgets no other. -/
theorem Kept.look {w : Watched} (h : w.Kept) : (w.after .look).Kept :=
  kept_of_refs_eq h.rostered h.prune_eq

/-- An event that makes no lock may leave locks without a handle. They stay in the memory. -/
theorem Kept.of_cons {w w' : Watched} (h : w.Kept) {e : Event} (hMade : e.made? = none)
    (hRostered : w'.scene.Rostered) (hHistory : w'.scene.history = e :: w.scene.history)
    (hRefs : w'.refs = w.refs) : w'.Kept := by
  have hLive : ∀ id, decide (0 < handlesOf id (e :: w.scene.history)) =
      (decide (0 < handlesOf id (e :: w.scene.history)) &&
        decide (0 < handlesOf id w.scene.history)) := by
    intro id
    rw [← Bool.decide_and]
    exact decide_eq_decide.mpr ⟨fun hPos => ⟨hPos, handlesOf_pos_of_cons hMade hPos⟩, And.left⟩
  have hBefore := h.live_eq
  rw [ids_rosterOf] at hBefore
  refine ⟨hRostered, ?_⟩
  rw [hHistory, hRefs, ids_rosterOf, made_cons_of_none w.scene.history hMade,
    List.filter_congr fun id _ => hLive id, ← List.filter_filter, hBefore, List.filter_filter]
  exact (List.filter_congr fun id _ => hLive id).symm

/-- A new lock is remembered, and no lock with a handle is forgotten for it. -/
theorem Kept.create {w : Watched} (h : w.Kept) (name : String) (kind : Kind) :
    (w.after (.act (.create name kind))).Kept := by
  have hRostered := Scene.rostered_after h.rostered (.create name kind)
  cases hName : name.isEmpty with
  | true =>
    have hScene := w.scene.after_create_of_isEmpty kind hName
    refine h.of_cons rfl hRostered (congrArg (·.history) hScene) ?_
    dsimp only [after, remembered]
    rw [w.scene.registry.create_of_isEmpty kind w.scene.host hName]
  | false =>
    obtain ⟨host, calls, hScene⟩ := w.scene.after_create_of_ne kind hName
    obtain ⟨h', hCreate⟩ := Registry.create_of_ne (r := w.scene.registry) hName kind w.scene.host
    have hHistory := congrArg (·.history) hScene
    refine kept_of_refs_eq hRostered ?_
    dsimp only [after, remembered] at hHistory ⊢
    rw [hCreate, hHistory, rosterOf_create w.scene.history rfl rfl, List.map_append, h.prune_eq,
      h.rostered.nextId_eq]
    rfl

theorem Kept.after {w : Watched} (h : w.Kept) (m : Move) : (w.after m).Kept := by
  cases m with
  | look => exact h.look
  | act a =>
    rcases a.create_or_ne with ⟨name, kind, rfl⟩ | hNe
    · exact h.create name kind
    · have hRefs : (w.after (.act a)).refs = w.refs := by
        cases a with
        | create name kind => exact absurd rfl (hNe name kind)
        | _ => rfl
      have hRostered : (w.after (.act a)).scene.Rostered := Scene.rostered_after h.rostered a
      rcases w.scene.after_cases a with ⟨_, hSame⟩ | ⟨o, s', _, hAfter⟩
      · refine ⟨hRostered, ?_⟩
        rw [hRefs, show (w.after (.act a)).scene = w.scene from hSame]
        exact h.live_eq
      · exact h.of_cons (made?_of_ne hNe) hRostered (congrArg (·.history) hAfter) hRefs

theorem Kept.run {w : Watched} (h : w.Kept) (moves : List Move) : (w.run moves).Kept := by
  induction moves generalizing w with
  | nil => exact h
  | cons m moves ih => exact ih (h.after m)

/-! ## Numbers and looks -/

/-- What is seen in a look is what is seen of the locks in the registry. -/
theorem Kept.seen_eq {w : Watched} (h : w.Kept) :
    w.seen = w.scene.registry.snapshot w.scene.host.now := by
  have hFound : (w.scene.registry.prune w.refs).filterMap w.scene.registry.find? =
      w.scene.registry.entries.map (·.lock) := by
    rw [h.prune_eq, h.rostered.ids_eq, List.filterMap_map]
    exact List.filterMap_eq_map_iff_forall_eq_some.mpr fun e hMem =>
      h.rostered.numbered.find?_of_mem hMem
  have hSorted : (w.scene.registry.snapshot w.scene.host.now).Pairwise fun a b => a.id < b.id := by
    have hUp := pairwise_ids_rosterOf w.scene.history
    rw [h.rostered.ids_eq] at hUp
    unfold Registry.snapshot
    exact List.pairwise_map.mpr (List.pairwise_map.mp hUp)
  have hOrdered : ((w.scene.registry.entries.map (·.lock)).map fun l =>
      l.snapshot w.scene.host.now) = w.scene.registry.snapshot w.scene.host.now := List.map_map
  unfold seen Registry.look
  rw [hFound, hOrdered]
  refine List.mergeSort_of_pairwise (hSorted.imp fun hLt => ?_)
  exact decide_eq_true (Nat.le_of_lt hLt)

theorem Kept.ids_seen {w : Watched} (h : w.Kept) :
    w.seen.map (·.id) = (rosterOf w.scene.history).map (·.id) := by
  rw [h.seen_eq, h.rostered.ids_eq]
  unfold Registry.snapshot
  rw [List.map_map]
  rfl

/-- A lock is seen with the name and the kind with which it was made. -/
theorem Kept.made_of_seen {w : Watched} (h : w.Kept) {seen : Snapshot} (hMem : seen ∈ w.seen) :
    (made w.scene.history)[seen.id - 1]? = some (seen.name, seen.kind) := by
  rw [h.seen_eq] at hMem
  obtain ⟨e, hEntry, rfl⟩ := List.mem_map.mp hMem
  have hLine : e.lock.line e.handles ∈ rosterOf w.scene.history := by
    rw [← h.rostered.roster_eq]
    exact List.mem_map.mpr ⟨e, hEntry, rfl⟩
  exact made_of_mem_rosterOf hLine

/-- What a registry is like. -/
structure InOrder (w : Watched) : Prop where
  /-- A lock with a name gets the number after those of the locks that were made before it. -/
  number_eq : ∀ name kind, name.isEmpty = false →
    (w.scene.registry.create name kind w.scene.host).1 = .ok ((made w.scene.history).length + 1)
  /-- A lock without a name is refused. Its refusal is all that is left of it. -/
  refused_eq : ∀ name kind, name.isEmpty = true →
    w.after (.act (.create name kind)) = { w with scene := { w.scene with history :=
      ⟨.create name kind, .error (.refused (.invalidArgument emptyNameMessage)), [],
        w.scene.host.now⟩ :: w.scene.history } }
  /-- A look shows what is seen of the locks in the registry. -/
  seen_eq : w.seen = w.scene.registry.snapshot w.scene.host.now
  /-- Exactly the locks with a handle are seen. -/
  seen_iff : ∀ id, id ∈ w.seen.map (·.id) ↔ 0 < handlesOf id w.scene.history
  /-- Each lock is seen once, in the order of the numbers. -/
  pairwise_lt : (w.seen.map (·.id)).Pairwise (· < ·)
  /-- A lock is seen with the name and the kind with which it was made. -/
  made_eq : ∀ seen ∈ w.seen, (made w.scene.history)[seen.id - 1]? = some (seen.name, seen.kind)
  /-- Whatever happens next, no lock with a handle is forgotten. -/
  remembered : ∀ m id, 0 < handlesOf id (w.after m).scene.history → id ∈ (w.after m).refs
  /-- What happens next to one lock leaves the entries of the others. -/
  entryAt?_eq : ∀ a id e, a.subject? ≠ some id → w.scene.registry.entryAt? id = some e →
    (w.after (.act a)).scene.registry.entryAt? id = some e

theorem Kept.mem_refs {w : Watched} (h : w.Kept) {id : Nat}
    (hHandles : 0 < handlesOf id w.scene.history) : id ∈ w.refs := by
  have hMem := mem_ids_rosterOf.mpr hHandles
  rw [← h.live_eq] at hMem
  exact (List.mem_filter.mp hMem).1

/-- In every run the registry is in order: its numbers, what a look shows, what is forgotten, and
what an action on one lock leaves of the others. -/
theorem inOrder_run (origin : Log.Origin) (supported : List Kind) (moves : List Move) :
    ((start origin supported).run moves).InOrder := by
  have hKept : ((start origin supported).run moves).Kept := (kept_start origin supported).run moves
  generalize (start origin supported).run moves = w at hKept
  constructor
  case number_eq =>
    intro name kind hName
    obtain ⟨h', hCreate⟩ := Registry.create_of_ne (r := w.scene.registry) hName kind w.scene.host
    rw [hCreate, hKept.rostered.nextId_eq]
  case refused_eq =>
    intro name kind hName
    dsimp only [after, remembered]
    rw [w.scene.after_create_of_isEmpty kind hName,
      w.scene.registry.create_of_isEmpty kind w.scene.host hName]
  case seen_eq => exact hKept.seen_eq
  case seen_iff =>
    intro id
    rw [hKept.ids_seen]
    exact mem_ids_rosterOf
  case pairwise_lt =>
    rw [hKept.ids_seen]
    exact pairwise_ids_rosterOf w.scene.history
  case made_eq => exact fun seen => hKept.made_of_seen
  case remembered => exact fun m id => (hKept.after m).mem_refs
  case entryAt?_eq => exact fun a id e => Scene.entryAt?_after

/-- The first of two locks is gone. It is remembered until the registry is looked at. -/
example :
    let w := (start ⟨"", ""⟩ []).run
      [.act (.create "a" .background), .act (.create "b" .background), .act (.drop 1)]
    w.refs = [1, 2] ∧ (w.after .look).refs = [2] := by
  decide

end Watched

end DevicePower.Lock
