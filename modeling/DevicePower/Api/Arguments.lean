import DevicePower.Error
import DevicePower.Lock.Kind

/-!
# Arguments of dynamically typed calls

A caller of the programming interface gives a method's name and a list of JSON values. Each method
checks how many there are and what they are, and the first thing wrong is the answer. A number is
taken as an integer if its exact value is one, however it was written; a double must lie below
`9 · 10 ^ 15` in size, where every integer is a double of its own.

## Main results

* `exactInteger?_integer`, `exactInteger?_double`: which numbers are taken, and for what.
-/

namespace DevicePower.Api

/-- Why a call is rejected before anything is done. -/
inductive Objection where
  | wrongCount (method : String) (expected given : Nat)
  | wrongType (expected : String)
  | negative (what : String) (value : Int)
  | unknownPowerMethod (name : String)
  | unknownLockMethod (name : String)
  | emptyLockName
  | unknownLockKind
deriving DecidableEq

namespace Objection

/-- The wording of each objection. -/
def message : Objection → String
  | wrongCount method expected given =>
    "Wrong number of arguments. " ++ method ++ " expects " ++ Text.naturalText expected
      ++ ", got " ++ Text.naturalText given ++ "."
  | wrongType expected => "Wrong argument type. " ++ expected ++ " expected."
  | negative what value =>
    "Parameter error. " ++ what ++ " must be a non-negative integer, got "
      ++ Text.integerText value ++ "."
  | unknownPowerMethod name => "Unknown power method " ++ name ++ "."
  | unknownLockMethod name => "Unknown running lock method " ++ name ++ "."
  | emptyLockName => Lock.emptyNameMessage
  | unknownLockKind => "Wrong argument type. RunningLockType expected."

/-- An objection as an error of the facade. -/
def error (o : Objection) : Error := .invalidArgument o.message

end Objection

/-- The bound below which a double is taken as an integer. -/
def doubleBound : Nat := 9000000000000000

/-- The exact value of a number, if that is an integer that calls can take. -/
def exactInteger? : Json.Number → Option Int
  | .integer i => if i < Text.half64 then some i else none
  | .double x => x.toInt?.filter fun i => i.natAbs < doubleBound

theorem exactInteger?_integer (i n : Int) :
    exactInteger? (.integer i) = some n ↔ i = n ∧ i < Text.half64 := by
  simp only [exactInteger?, Option.ite_none_right_eq_some, Option.some.injEq]
  exact and_comm

theorem exactInteger?_double (x : Decimal.Binary64) (n : Int) :
    exactInteger? (.double x) = some n ↔ x.HasValue n ∧ n.natAbs < doubleBound := by
  rw [exactInteger?, Option.filter_eq_some_iff, Decimal.Binary64.toInt?_eq_some_iff]
  simp

/-- The method of a call and its arguments, in order. -/
structure Arguments where
  method : String
  values : List Json.Value

namespace Arguments

/-- How many arguments there are. -/
def count (a : Arguments) : Nat := a.values.length

/-- Checks the number of arguments. -/
def expectCount (a : Arguments) (expected : Nat) : Except Objection Unit :=
  if a.count = expected then .ok () else .error (.wrongCount a.method expected a.count)

/-- The argument at a place, which has to be a text. -/
def text (a : Arguments) (index : Nat) : Except Objection String :=
  match a.values[index]? with
  | some (.text s) => .ok s
  | _ => .error (.wrongType "string")

/-- The argument at a place, which has to be an integer. -/
def integer (a : Arguments) (index : Nat) : Except Objection Int :=
  match a.values[index]? with
  | some (.number n) =>
    match exactInteger? n with
    | some i => .ok i
    | none => .error (.wrongType "integer")
  | _ => .error (.wrongType "number")

/-- The argument at a place, which has to be an integer and not negative. `what` is its name in
messages. -/
def natural (a : Arguments) (index : Nat) (what : String) : Except Objection Nat := do
  match ← a.integer index with
  | .ofNat n => .ok n
  | .negSucc n => .error (.negative what (.negSucc n))

end Arguments

end DevicePower.Api
