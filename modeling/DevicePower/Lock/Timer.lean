/-!
# Timers with one deadline

A timer waits for at most one deadline, set for some purpose. Setting another replaces it, and
cancelling forgets it. A thread of its own waits for each deadline. If the system does not start
that thread, the timer waits for nothing.

## Main results

* `pending_schedule`, `pending_cancel`: what a timer waits for.
-/

namespace DevicePower.Lock

/-- An instant and what is to happen then. -/
structure Deadline (α : Type) where
  due : Nat
  purpose : α
deriving DecidableEq

/-- A timer. -/
structure Timer (α : Type) where
  /-- What it waits for. -/
  pending : Option (Deadline α) := none
deriving DecidableEq

namespace Timer

variable {α : Type}

/-- Forgets the deadline. -/
def cancel (_ : Timer α) : Timer α := ⟨none⟩

/-- Sets the deadline, if the thread that is to wait for it was started. The one before is forgotten
in any case. -/
def schedule (t : Timer α) (due : Nat) (purpose : α) (started : Bool) : Timer α :=
  if started then ⟨some ⟨due, purpose⟩⟩ else t.cancel

/-- Whether there is a deadline. -/
def isPending (t : Timer α) : Bool := t.pending.isSome

/-- The deadline, if it has come. -/
def due? (t : Timer α) (now : Nat) : Option (Deadline α) := t.pending.filter fun d => d.due ≤ now

/-- The timer after the deadline with a purpose has been dealt with. -/
def settle [DecidableEq α] (t : Timer α) (purpose : α) : Timer α :=
  ⟨t.pending.filter fun d => d.purpose ≠ purpose⟩

@[simp] theorem pending_cancel (t : Timer α) : t.cancel.pending = none := rfl

@[simp] theorem pending_schedule (t : Timer α) (due : Nat) (purpose : α) (started : Bool) :
    (t.schedule due purpose started).pending = if started then some ⟨due, purpose⟩ else none := by
  cases started <;> rfl

end Timer

end DevicePower.Lock
