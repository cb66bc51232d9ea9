import DevicePower.Device
import DevicePower.Lock.Kind
import DevicePower.Power.Mode
import DevicePower.Proofs.Text.Lettercase
import DevicePower.Proofs.Text.Spelling
import Mathlib.Data.List.Nodup

/-!
# Which texts give a choice

A choice is given by one of its names, in any mix of cases, or by the digits of its code, with a
plus sign and zeros in front or without. Numbers are tried first, which takes no name away: a text
that is a number has no letters, so it spells no other text than itself, and no name is a number. So
both ways are open to every text, and a text that is accepted in neither way gives nothing.

The cases of a name are those of the letters of ASCII, but that a Kelvin sign also stands for a `k`.
No power mode has a `k` in its names, while a kind of lock and a class of device do.

## Main results

* `named?_eq_some_iff`: what is found in a table of names.
* `byName_eq_ok_iff`, `byCodeOrName_eq_ok_iff`: what is accepted, for any choice.
* `choices_accepted`: what is accepted for a power mode, a kind of lock, and a class of device.
-/

namespace DevicePower

/-- A number is spelled with digits and a plus sign, so folding leaves it as it is. -/
theorem Text.fold_of_isUnsigned {n : Nat} {s : List Char} (h : Text.IsUnsigned n s) :
    Text.fold s = s := by
  have hDigits : ∀ {ds : List Char}, Text.IsPadded n ds → ∀ c ∈ ds,
      c.isUpper = false ∧ c ≠ Text.kelvinSign := by
    intro ds hPadded c hMem
    obtain ⟨d, hDigit⟩ := Option.ne_none_iff_exists'.mp fun hNone => hPadded.notMem hNone hMem
    obtain ⟨rfl, hSmall⟩ := Text.eq_digitChar_of_digitValue? hDigit
    match d, hSmall with
    | 0, _ | 1, _ | 2, _ | 3, _ | 4, _ | 5, _ | 6, _ | 7, _ | 8, _ | 9, _ => decide
  refine Text.fold_of_isAscii_lower ?_
  cases h with
  | bare hPadded => exact hDigits hPadded
  | plus hPadded =>
    rintro c (_ | ⟨_, hMem⟩)
    · decide
    · exact hDigits hPadded c hMem

namespace Name

open Text (SameButCase plain IsSmall IsUnsigned)

variable {α : Type} {names : List (String × α)}

/-- Whether a text is one of the names of a choice, but for the cases of the letters of ASCII. -/
def IsNameOf (names : List (String × α)) (s : List Char) (a : α) : Prop :=
  ∃ name, (name, a) ∈ names ∧ SameButCase s name.toList

/-- A table in which every name is in small ASCII and stands once. -/
structure IsTable (names : List (String × α)) : Prop where
  small : ∀ e ∈ names, IsSmall e.1.toList
  nodup : (names.map Prod.fst).Nodup

/-- A table with the codes of the choices, where no name is a number. -/
structure IsCoded (ofCode? : Nat → Option α) (code : α → Nat) (names : List (String × α)) :
    Prop extends IsTable names where
  ofCode?_iff : ∀ n a, ofCode? n = some a ↔ code a = n
  code_lt : ∀ a, code a < Text.word32
  unsigned?_name : ∀ e ∈ names, Text.unsigned? Text.word32 e.1.toList = none

/-! ## Any choice -/

/-- What is found in a table of names. -/
theorem named?_eq_some_iff (h : IsTable names) {s : String} {a : α} :
    Text.named? names s = some a ↔ IsNameOf names (plain s.toList) a := by
  show (names.find? fun e => Text.spells s e.1).map Prod.snd = some a ↔ _
  rw [Option.map_eq_some_iff]
  constructor
  · rintro ⟨e, hFind, rfl⟩
    have hMem := List.mem_of_find?_eq_some hFind
    have hSpells := List.find?_some hFind
    exact ⟨e.1, hMem, (Text.spells_iff_sameButCase (h.small e hMem)).mp hSpells⟩
  · rintro ⟨name, hMem, hSame⟩
    have hSpells : Text.spells s name = true :=
      (Text.spells_iff_sameButCase (h.small _ hMem)).mpr hSame
    obtain ⟨e, hFind⟩ : ∃ e, names.find? (fun e => Text.spells s e.1) = some e :=
      Option.isSome_iff_exists.mp (List.find?_isSome.mpr ⟨(name, a), hMem, hSpells⟩)
    have hFirst := List.find?_some hFind
    have hName : e.1 = name :=
      String.toList_injective ((beq_iff_eq.mp hFirst).symm.trans (beq_iff_eq.mp hSpells))
    have hEntry : e = (name, a) :=
      List.inj_on_of_nodup_map h.nodup (List.mem_of_find?_eq_some hFind) hMem hName
    exact ⟨e, hFind, hEntry ▸ rfl⟩

/-- Which texts give a choice that has names alone. -/
theorem byName_eq_ok_iff (h : IsTable names) {kind s : String} {a : α} :
    byName kind names s = .ok a ↔ IsNameOf names (plain s.toList) a := by
  rw [← named?_eq_some_iff h]
  unfold byName
  cases Text.named? names s with
  | none => exact iff_of_false nofun nofun
  | some b =>
    dsimp only
    rw [Except.ok.injEq, Option.some.injEq]

/-- Which texts give a choice that has names and a code. -/
theorem byCodeOrName_eq_ok_iff {ofCode? : Nat → Option α} {code : α → Nat}
    (h : IsCoded ofCode? code names) {kind s : String} {a : α} :
    byCodeOrName kind ofCode? names s = .ok a ↔
      IsNameOf names (plain s.toList) a ∨ IsUnsigned (code a) s.toList := by
  have hCode : IsUnsigned (code a) s.toList ↔
      Text.unsigned? Text.word32 s.toList = some (code a) :=
    (Text.unsigned?_eq_some_iff.trans (and_iff_left (h.code_lt a))).symm
  rw [hCode]
  unfold byCodeOrName
  cases hNumber : Text.unsigned? Text.word32 s.toList with
  | none =>
    dsimp only
    rw [byName_eq_ok_iff h.toIsTable, or_iff_left nofun]
  | some n =>
    have hNoName : ¬ IsNameOf names (plain s.toList) a := by
      rintro ⟨name, hMem, hSame⟩
      have hSpells := (Text.spells_iff_sameButCase (h.small _ hMem)).mpr hSame
      have hName : s.toList = name.toList := by
        rw [← Text.fold_of_isUnsigned (Text.unsigned?_eq_some_iff.mp hNumber).1]
        exact beq_iff_eq.mp hSpells
      rw [hName, h.unsigned?_name _ hMem] at hNumber
      exact nomatch hNumber
    rw [or_iff_right hNoName, Option.some.injEq, eq_comm (a := n), ← h.ofCode?_iff n a]
    dsimp only
    cases ofCode? n with
    | none => exact iff_of_false nofun nofun
    | some b =>
      dsimp only
      rw [Except.ok.injEq, Option.some.injEq]

/-- A Kelvin sign matters to no choice whose names are without a `k`. -/
theorem names_plain_iff (h : IsTable names) (hNoK : ∀ e ∈ names, 'k' ∉ e.1.toList)
    {s : List Char} {a : α} : IsNameOf names (plain s) a ↔ IsNameOf names s a := by
  refine exists_congr fun name => and_congr_right fun hMem => ?_
  exact Text.sameButCase_plain_iff (h.small _ hMem) (hNoK _ hMem)

/-! ## The choices there are -/

theorem isCoded_modes : IsCoded Power.Mode.ofCode? Power.Mode.code Power.Mode.names where
  small := by decide +kernel
  nodup := by decide +kernel
  ofCode?_iff n m := ⟨Power.Mode.code_of_ofCode?, fun h => h ▸ Power.Mode.ofCode?_code m⟩
  code_lt m := by cases m <;> decide
  unsigned?_name := by decide +kernel

theorem isCoded_kinds : IsCoded Lock.Kind.ofCode? Lock.Kind.code Lock.Kind.names where
  small := by decide +kernel
  nodup := by decide +kernel
  ofCode?_iff n k := ⟨Lock.Kind.code_of_ofCode?, fun h => h ▸ Lock.Kind.ofCode?_code k⟩
  code_lt k := by cases k <;> decide
  unsigned?_name := by decide +kernel

theorem isTable_devices : IsTable Device.names where
  small := by decide +kernel
  nodup := by decide +kernel

/-- A power mode is given by its names, with the letters of ASCII in any case, and by the digits of
its code, with a plus sign and zeros in front or without. So is a kind of lock, and by its names
alone a class of device, but in these names a Kelvin sign is also taken for a `k`. No other text
gives any of them. -/
theorem choices_accepted (s : String) :
    (∀ m, Power.Mode.parse s = .ok m ↔
      IsNameOf Power.Mode.names s.toList m ∨ IsUnsigned m.code s.toList) ∧
    (∀ k, Lock.Kind.parse s = .ok k ↔
      IsNameOf Lock.Kind.names (plain s.toList) k ∨ IsUnsigned k.code s.toList) ∧
    (∀ d, Device.parse s = .ok d ↔ IsNameOf Device.names (plain s.toList) d) := by
  refine ⟨fun m => ?_, fun k => ?_, fun d => ?_⟩
  · have hNoK : ∀ e ∈ Power.Mode.names, 'k' ∉ e.1.toList := by decide +kernel
    rw [← names_plain_iff isCoded_modes.toIsTable hNoK]
    exact byCodeOrName_eq_ok_iff isCoded_modes
  · exact byCodeOrName_eq_ok_iff isCoded_kinds
  · exact byName_eq_ok_iff isTable_devices

/-- A desktop is given by a text that is not one of its names in any case of the letters of ASCII:
the one with a Kelvin sign. -/
theorem kelvin_sign_is_taken_for_k :
    ¬ ∀ s : String,
      (∀ m, Power.Mode.parse s = .ok m ↔
        IsNameOf Power.Mode.names s.toList m ∨ IsUnsigned m.code s.toList) ∧
      (∀ k, Lock.Kind.parse s = .ok k ↔
        IsNameOf Lock.Kind.names s.toList k ∨ IsUnsigned k.code s.toList) ∧
      (∀ d, Device.parse s = .ok d ↔ IsNameOf Device.names s.toList d) := by
  intro hAscii
  have hParse : Device.parse "des\u212Atop" = .ok .desktop := by decide +kernel
  obtain ⟨name, hMem, hSame⟩ := ((hAscii "des\u212Atop").2.2 .desktop).mp hParse
  have hNone : ∀ e ∈ Device.names, ¬ SameButCase "des\u212Atop".toList e.1.toList := by
    decide +kernel
  exact hNone _ hMem hSame

end Name

end DevicePower
