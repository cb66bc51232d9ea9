import DevicePower.Platform

/-!
# Results that come later

A call can be made so that it runs by itself. The caller has a handle and asks it for the result, or
leaves behind what is to be done with it. The result is given out once. An operation that crashed
has no result, and its caller is told that it was abandoned; so is one who asks again after the
result has been taken.

## Main results

* `wait_running`: waiting gives what the operation ended with, a crash as abandonment.
-/

namespace DevicePower

/-- A handle to the result of an operation. -/
inductive Pending (α : Type) where
  /-- The operation has not ended. -/
  | running
  /-- The result is there and has not been taken. -/
  | ready (result : Except Error α)
  /-- There is no result any more, or never will be. -/
  | spent

namespace Pending

variable {α : Type}

/-- What is reported when there is no result. -/
def abandoned : Error := .platform none "operation ended without a result"

/-- The handle once the operation has ended. -/
def finish (outcome : Outcome α) : Pending α → Pending α
  | running =>
    match outcome with
    | .ok a => ready (.ok a)
    | .error (.refused e) => ready (.error e)
    | .error .crashed => spent
  | p => p

/-- Asks for the result without waiting: nothing if the operation has not ended. -/
def poll : Pending α → Option (Except Error α) × Pending α
  | running => (none, running)
  | ready result => (some result, spent)
  | spent => (some (.error abandoned), spent)

/-- Waits for an operation that ends with `outcome`. -/
def wait (p : Pending α) (outcome : Outcome α) : Except Error α :=
  (p.finish outcome).poll.1.getD (.error abandoned)

/-- Waiting gives what the operation ended with, a crash as abandonment. -/
theorem wait_running (outcome : Outcome α) :
    (running : Pending α).wait outcome =
      match outcome with
      | .ok a => .ok a
      | .error (.refused e) => .error e
      | .error .crashed => .error abandoned := by
  cases outcome with
  | ok a => rfl
  | error f => cases f <;> rfl

end Pending

/-- The ways to make a call. The thread of a call that runs by itself is taken to be started. -/
inductive Form where
  /-- The caller runs the operation itself. -/
  | direct
  /-- The caller waits for the result. -/
  | future
  /-- The result goes to a function of the caller's. -/
  | callback
deriving DecidableEq

/-- Whether an operation can be made in this way. One that runs by itself bears the name of its
method, and a name with a NUL character cannot be borne. -/
def Form.canBear (form : Form) (method : String) : Bool :=
  form == .direct || !method.toList.contains '\x00'

/-- What the caller learns of an operation that ended with `outcome`. A crash reaches only who ran
the operation itself. -/
def Form.deliver {α : Type} (form : Form) (outcome : Outcome α) : Outcome α :=
  match form with
  | .direct => outcome
  | _ => ((Pending.running : Pending α).wait outcome).mapError .refused

end DevicePower
