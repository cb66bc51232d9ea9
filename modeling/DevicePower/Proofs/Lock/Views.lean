import DevicePower.Proofs.Lock.Coherent
import DevicePower.Proofs.Lock.Numbering

/-!
# Two views of a lock

Whether a lock is held can be asked in two ways. The lock itself compares the time with its
deadline. What is seen of the lock in a snapshot goes by the time that is left, in whole
milliseconds, and takes a hold with none left for one that has ended. So the two differ for less
than a millisecond at the end of each hold with a deadline, and only then: the lock is still held,
and the snapshot does not show it any more. The number of locks shown as held is short by those in
that state.

The time that is left is shown for as long as the hold has not been given up, and it is zero both in
the last millisecond and when the deadline has passed and no alarm has given up the hold.

## Main results

* `held_snapshot_eq`: the one view in terms of the other.
* `heldCount_add_countP_isEnding`: so for the number of locks that are held.
* `Scene.twoViews_run`: how the views are related in every run and at any time.
* `Scene.views_may_differ`: they differ in the middle of a hold of one millisecond.
-/

namespace DevicePower.Lock

namespace Running

/-- Whether a hold ends in less than a millisecond. -/
def isEnding (l : Running) (now : Nat) : Bool :=
  l.held && l.deadline.any fun due => now < due && due < now + millisecond

/-- Whether the deadline of a hold has passed that has not been given up. -/
def isOverdue (l : Running) (now : Nat) : Bool := l.held && l.deadline.any fun due => due ≤ now

/-- No whole millisecond is left until a deadline. -/
theorem millisecondsLeft_eq_zero_iff {due now : Nat} :
    (due - now) / millisecond = 0 ↔ due < now + millisecond := by
  unfold millisecond
  omega

variable (l : Running) (now : Nat)

/-- A lock is shown as held exactly if it is held and does not end in less than a millisecond. -/
theorem held_snapshot_eq : (l.snapshot now).held = (l.isHolding now && !l.isEnding now) := by
  unfold snapshot isHolding isEnding
  dsimp only
  cases l.held with
  | false => rfl
  | true =>
    cases l.deadline with
    | none => rfl
    | some due =>
      have hLater : ¬ due < now + millisecond → now < due := by
        unfold millisecond
        omega
      simp only [Bool.true_and, Option.filter_some, if_true, Option.map_some, Option.any_some]
      rw [Bool.eq_iff_iff, bne_iff_ne, ne_eq, Option.some.injEq, millisecondsLeft_eq_zero_iff]
      simp
      omega

/-- A hold that ends in less than a millisecond has not ended. -/
theorem isHolding_of_isEnding (h : l.isEnding now = true) : l.isHolding now = true := by
  unfold isEnding isHolding at *
  cases hDeadline : l.deadline <;> simp_all

/-- The views of a lock agree except in its last millisecond. -/
theorem held_snapshot_eq_isHolding_iff :
    (l.snapshot now).held = l.isHolding now ↔ l.isEnding now = false := by
  rw [held_snapshot_eq]
  cases hEnding : l.isEnding now with
  | false => simp
  | true => simp [l.isHolding_of_isEnding now hEnding]

theorem remaining_snapshot_eq :
    (l.snapshot now).remaining =
      if l.held then l.deadline.map fun due => (due - now) / millisecond else none := by
  unfold snapshot
  cases l.held <;> cases l.deadline <;> rfl

/-- A time is shown for a hold with a deadline, and until that is given up. -/
theorem isSome_remaining_snapshot :
    (l.snapshot now).remaining.isSome =
      (l.isHolding now && l.deadline.isSome || l.isOverdue now) := by
  rw [remaining_snapshot_eq]
  unfold isHolding isOverdue
  cases l.held with
  | false => rfl
  | true =>
    cases l.deadline with
    | none => rfl
    | some due =>
      simp
      omega

/-- No time is shown as left in the last millisecond of a hold and behind its deadline. -/
theorem remaining_snapshot_eq_zero_iff :
    (l.snapshot now).remaining = some 0 ↔ l.isEnding now = true ∨ l.isOverdue now = true := by
  rw [remaining_snapshot_eq]
  unfold isEnding isOverdue
  cases l.held with
  | false => simp
  | true =>
    cases l.deadline with
    | none => simp
    | some due =>
      rw [if_pos rfl, Option.map_some, Option.some.injEq, millisecondsLeft_eq_zero_iff]
      simp only [Bool.true_and, Option.any_some, Bool.and_eq_true, decide_eq_true_eq]
      unfold millisecond
      omega

end Running

namespace Registry

variable (r : Registry) (now : Nat)

/-- The locks that are shown as held and those that end in less than a millisecond are together
those that are held. -/
theorem heldCount_add_countP_isEnding :
    r.heldCount now + r.entries.countP (fun e => e.lock.isEnding now) =
      r.entries.countP fun e => e.lock.isHolding now := by
  unfold heldCount snapshot
  rw [← List.countP_eq_length_filter, List.countP_map]
  induction r.entries with
  | nil => rfl
  | cons e rest ih =>
    have hHeld := e.lock.held_snapshot_eq now
    have hHolding := e.lock.isHolding_of_isEnding now
    simp only [List.countP_cons, Function.comp_apply, hHeld]
    rw [← ih]
    cases hEnding : e.lock.isEnding now with
    | false => simp; omega
    | true => simp [hHolding hEnding]; omega

end Registry

/-- How the views of the locks of a registry are related at a time. -/
structure TwoViews (r : Registry) (now : Nat) : Prop where
  /-- A lock is shown as held exactly if it is held and does not end in less than a millisecond. -/
  held_eq : ∀ e ∈ r.entries,
    (e.lock.snapshot now).held = (e.lock.isHolding now && !e.lock.isEnding now)
  /-- The number of locks shown as held is short by those that end in less than a millisecond. -/
  count_eq : r.heldCount now + r.entries.countP (fun e => e.lock.isEnding now) =
    r.entries.countP fun e => e.lock.isHolding now
  /-- A time is shown exactly for a lock with a deadline. Only a hold has one. -/
  deadline_eq : ∀ e ∈ r.entries,
    (e.lock.snapshot now).remaining.isSome = e.lock.deadline.isSome ∧
      (e.lock.deadline.isSome = true → e.lock.held = true)
  /-- The hold of a lock for which a time is shown lasts, or it has not been given up in time. -/
  remaining_eq : ∀ e ∈ r.entries,
    (e.lock.snapshot now).remaining.isSome =
      (e.lock.isHolding now && e.lock.deadline.isSome || e.lock.isOverdue now)
  /-- It is zero in the last millisecond of the hold and behind its deadline. -/
  zero_iff : ∀ e ∈ r.entries, (e.lock.snapshot now).remaining = some 0 ↔
    e.lock.isEnding now = true ∨ e.lock.isOverdue now = true
  /-- The views agree on all locks exactly if none ends in less than a millisecond. -/
  agree_iff : (∀ e ∈ r.entries, (e.lock.snapshot now).held = e.lock.isHolding now) ↔
    ∀ e ∈ r.entries, e.lock.isEnding now = false
  /-- And so they do on the number of locks that are held. -/
  count_agrees_iff : r.heldCount now = r.entries.countP (fun e => e.lock.isHolding now) ↔
    ∀ e ∈ r.entries, e.lock.isEnding now = false

namespace Scene

/-- How the views of the locks are related in every run and at any time, whether alarms have woken
or not. -/
theorem twoViews_run (origin : Log.Origin) (supported : List Kind) (actions : List Action)
    (now : Nat) : TwoViews ((start origin supported).run actions).registry now := by
  have hReachable := reachable_run origin supported actions
  generalize (start origin supported).run actions = s at hReachable
  have hCount := s.registry.heldCount_add_countP_isEnding now
  constructor
  case held_eq => exact fun e _ => e.lock.held_snapshot_eq now
  case count_eq => exact hCount
  case deadline_eq =>
    intro e hMem
    have hFind := (numbered_of_reachable hReachable).find?_of_mem hMem
    have hUnheld := (coherent_of_lock? hReachable hFind).of_unheld
    rw [e.lock.remaining_snapshot_eq now]
    cases hHeld : e.lock.held with
    | false => simp [hUnheld hHeld]
    | true => simp
  case remaining_eq => exact fun e _ => e.lock.isSome_remaining_snapshot now
  case zero_iff => exact fun e _ => e.lock.remaining_snapshot_eq_zero_iff now
  case agree_iff => exact forall₂_congr fun e _ => e.lock.held_snapshot_eq_isHolding_iff now
  case count_agrees_iff =>
    have hNone : s.registry.entries.countP (fun e => e.lock.isEnding now) = 0 ↔
        ∀ e ∈ s.registry.entries, e.lock.isEnding now = false := by
      rw [List.countP_eq_zero]
      exact forall₂_congr fun e _ => .of_eq (Bool.not_eq_true _)
    rw [← hNone]
    omega

/-- A lock is held for one millisecond, of which half has passed. -/
def midway : Scene :=
  (start ⟨"", ""⟩ [.background]).run [.create "a" .background, .hold 1 1, .pass 500000]

/-- A lock that is held is not shown as held, and is not counted. -/
theorem views_may_differ :
    (midway.registry.entries.map fun e => (e.lock.isHolding midway.host.now,
        (e.lock.snapshot midway.host.now).held, (e.lock.snapshot midway.host.now).remaining)) =
        [(true, false, some 0)] ∧
      midway.registry.heldCount midway.host.now = 0 := by
  decide +kernel

end Scene

end DevicePower.Lock
