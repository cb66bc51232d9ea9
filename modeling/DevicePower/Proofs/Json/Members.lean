import DevicePower.Json.Value
import Mathlib.Data.List.Nodup

/-!
# The members of an object

Where no name stands twice, the members of an object are what is found under their names. Setting a
member keeps this, and members that stand one behind the other are looked up one behind the other.

## Main results

* `nodup_set`: no name stands twice after a member was set.
* `member?_append`: looking up in one list of members and then in another.
* `member?_of_mem`: a member is found under its name.
-/

namespace DevicePower.Json.Members

variable {members : Members} {name : String} {value : Value}

/-- A member with a new name is put at the end. -/
theorem set_of_notMem (h : name ∉ members.map Prod.fst) (value : Value) :
    members.set name value = members ++ [(name, value)] := by
  induction members with
  | nil => rfl
  | cons m rest ih =>
    rw [List.map_cons, List.mem_cons, not_or] at h
    have hOther : ¬ (m.1 == name) = true := by simpa using Ne.symm h.1
    rw [set, if_neg hOther, ih h.2]
    rfl

/-- A member whose name is there leaves the names as they are. -/
theorem map_fst_set_of_mem (h : name ∈ members.map Prod.fst) (value : Value) :
    (members.set name value).map Prod.fst = members.map Prod.fst := by
  induction members with
  | nil => exact nomatch h
  | cons m rest ih =>
    rw [set]
    split
    · next hSame => rw [List.map_cons, List.map_cons, beq_iff_eq.mp hSame]
    · next hOther =>
      rw [List.map_cons, List.mem_cons] at h
      have hRest := h.resolve_left fun hName => hOther (beq_iff_eq.mpr hName.symm)
      rw [List.map_cons, List.map_cons, ih hRest]

theorem nodup_set (h : (members.map Prod.fst).Nodup) (name : String) (value : Value) :
    ((members.set name value).map Prod.fst).Nodup := by
  by_cases hMem : name ∈ members.map Prod.fst
  · rwa [map_fst_set_of_mem hMem]
  · rw [set_of_notMem hMem, List.map_append]
    exact h.append (List.nodup_singleton name) (List.disjoint_singleton.mpr hMem)

theorem member?_cons (m : String × Value) (rest : Members) (name : String) :
    member? (m :: rest) name = if m.1 = name then some m.2 else member? rest name := by
  unfold member?
  rw [List.find?_cons]
  by_cases hName : m.1 = name
  · rw [if_pos hName, beq_iff_eq.mpr hName]
    rfl
  · rw [if_neg hName, beq_eq_false_iff_ne.mpr hName]

theorem mem_of_member? (h : members.member? name = some value) : (name, value) ∈ members := by
  induction members with
  | nil => exact nomatch h
  | cons m rest ih =>
    rw [member?_cons] at h
    split at h
    · next hName =>
      obtain rfl := Option.some.inj h
      exact hName ▸ List.mem_cons_self
    · exact List.mem_cons_of_mem m (ih h)

theorem member?_of_mem (hNames : (members.map Prod.fst).Nodup) (h : (name, value) ∈ members) :
    members.member? name = some value := by
  induction members with
  | nil => exact nomatch h
  | cons m rest ih =>
    rw [List.map_cons, List.nodup_cons] at hNames
    rw [member?_cons]
    rcases List.mem_cons.mp h with rfl | hRest
    · exact if_pos rfl
    · have hOther : m.1 ≠ name := fun hName =>
        hNames.1 (hName ▸ List.mem_map_of_mem (f := Prod.fst) hRest)
      rw [if_neg hOther]
      exact ih hNames.2 hRest

/-- Where no name stands twice, what is found is what is there. -/
theorem member?_eq_some_iff (hNames : (members.map Prod.fst).Nodup) :
    members.member? name = some value ↔ (name, value) ∈ members :=
  ⟨mem_of_member?, member?_of_mem hNames⟩

end DevicePower.Json.Members
