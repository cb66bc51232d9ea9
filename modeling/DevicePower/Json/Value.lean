import DevicePower.Decimal.Literal
import DevicePower.Text.Numeral

/-!
# JSON values

A JSON document is null, a truth value, a number, a text, a list, or an object. A number is an
integer if it was written as one and fits a 64-bit word, and a double otherwise. An object keeps
its members in the order in which their names first came; a repeated name overwrites the value and
keeps the place.

## Main results

* `member?_set_self`, `member?_set_ne`: setting a member changes that member and no other.
-/

namespace DevicePower.Json

/-- A number of a JSON document. -/
inductive Number where
  /-- A whole number from `-2 ^ 63` up to and without `2 ^ 64`, written without fraction and
  exponent. -/
  | integer (value : Int)
  /-- Any other number, rounded to a double. -/
  | double (value : Decimal.Binary64)
deriving DecidableEq

/-- The number that a literal without fraction and exponent stands for. A zero with a minus sign and
an integer outside the 64-bit words are doubles; so large a double that there is none is refused. -/
def Number.ofWhole? (negative : Bool) (l : Decimal.Literal) : Option Number :=
  if l.isCut then (l.toDouble? negative).map .double
  else if !negative then some (.integer l.digits)
  else if 0 < l.digits ∧ l.digits ≤ Text.half64 then some (.integer (-(l.digits : Int)))
  else (l.toDouble? true).map .double

/-- The double nearest to a number. -/
def Number.double? : Number → Option Decimal.Binary64
  | .double x => some x
  | .integer i => Decimal.Binary64.ofNat? (i < 0) i.natAbs

/-- A JSON value. -/
inductive Value where
  | null
  | bool (value : Bool)
  | number (value : Number)
  | text (value : String)
  | list (items : List Value)
  | object (members : List (String × Value))

/-- The members of an object. -/
abbrev Members := List (String × Value)

namespace Members

/-- The value of a member. -/
def member? (members : Members) (name : String) : Option Value :=
  (members.find? fun m => m.1 == name).map Prod.snd

/-- The members with one set: in its old place if the name was there, else at the end. -/
def set (members : Members) (name : String) (value : Value) : Members :=
  match members with
  | [] => [(name, value)]
  | m :: rest => if m.1 == name then (name, value) :: rest else m :: set rest name value

theorem member?_set_self (members : Members) (name : String) (value : Value) :
    (members.set name value).member? name = some value := by
  induction members with
  | nil => simp [set, member?]
  | cons m rest ih =>
    simp only [set]
    split
    · simp [member?]
    · next h => simpa [member?, List.find?_cons, h] using ih

theorem member?_set_ne (members : Members) {name other : String} (value : Value)
    (h : other ≠ name) : (members.set name value).member? other = members.member? other := by
  induction members with
  | nil => simp [set, member?, h.symm]
  | cons m rest ih =>
    simp only [set]
    split
    · next hName =>
      have hm : m.1 = name := by simpa using hName
      simp [member?, h.symm, hm]
    · next hName =>
      simp only [member?, List.find?_cons] at ih ⊢
      split
      · rfl
      · exact ih

end Members

namespace Value

/-- An integer as a value. -/
def int (i : Int) : Value := .number (.integer i)

/-- A natural number as a value. -/
def nat (n : Nat) : Value := .number (.integer n)

/-- A value or null. -/
def optional {α : Type} (write : α → Value) : Option α → Value
  | none => .null
  | some a => write a

/-- A member of an object; other values have none. -/
def member? : Value → String → Option Value
  | .object members, name => Members.member? members name
  | _, _ => none

/-- The text that a value is. -/
def text? : Value → Option String
  | .text s => some s
  | _ => none

/-- The truth value that a value is. -/
def bool? : Value → Option Bool
  | .bool b => some b
  | _ => none

/-- The integer that a value is. -/
def int? : Value → Option Int
  | .number (.integer i) => some i
  | _ => none

/-- The items of a list. -/
def list? : Value → Option (List Value)
  | .list items => some items
  | _ => none

end Value

end DevicePower.Json
