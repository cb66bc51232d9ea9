import DevicePower.Proofs.Api.Asked
import DevicePower.Proofs.Decimal.Nearest
import DevicePower.Proofs.Json.Meaning

/-!
# Numbers as arguments

A number reaches a call as an integer of at most 64 bits or as a double, and a double is the number
`m · 2 ^ q` that it holds. The exact value of a number is said here over the rationals. A call takes
an integer below `2 ^ 63`, or a double whose exact value is an integer below `9 · 10 ^ 15` in size,
and goes on with that value: nothing is rounded, cut off or wrapped round on the way to a power
mode, a kind of lock or a timeout. Every other argument in its place is a wrong argument.

## Main results

* `numbers_taken_exactly`: which values every numeric argument takes, and for what.
-/

namespace DevicePower

/-! ## Exact values -/

namespace Decimal.Binary64

/-- The exact value of a double. -/
def value (x : Binary64) : ℚ := if x.negative then -x.size else x.size

theorem size_mul_den (x : Binary64) : x.size * x.den = x.num := by
  unfold size binary num den
  simp only [Nat.shiftLeft_eq]
  push_cast
  rw [pow_toNat (by norm_num) x.q]
  ring

theorem hasValue_iff {x : Binary64} {i : Int} : x.HasValue i ↔ x.value = i := by
  have hDen : (x.den : ℚ) ≠ 0 := by exact_mod_cast x.den_pos.ne'
  have hScaled : x.value * x.den = ((if x.negative then -(x.num : Int) else x.num : Int) : ℚ) := by
    unfold value
    split
    · rw [neg_mul, size_mul_den]
      push_cast
      rfl
    · rw [size_mul_den]
      rfl
  unfold HasValue
  rw [← mul_left_inj' hDen, hScaled]
  exact_mod_cast Iff.rfl

end Decimal.Binary64

namespace Json

/-- The exact value of a number. -/
def Number.value : Number → ℚ
  | .integer i => i
  | .double x => x.value

theorem Number.hasValue_iff {n : Number} {i : Int} : n.HasValue i ↔ n.value = i := by
  cases n with
  | integer j => exact Int.cast_inj.symm
  | double x => exact Decimal.Binary64.hasValue_iff

/-- The exact value of a JSON value, if that is a number. -/
def Value.rational? : Value → Option ℚ
  | .number n => some n.value
  | _ => none

theorem Value.rational?_eq_some_iff {v : Value} {r : ℚ} :
    v.rational? = some r ↔ ∃ n, v = .number n ∧ n.value = r := by
  cases v <;> simp [rational?]

/-- The integer that a call takes a value for: a signed word of 64 bits, or the exact value of a
double that is small enough. -/
inductive Value.TakenAs : Value → Int → Prop
  | integer {i : Int} (hLow : -2 ^ 63 ≤ i) (hHigh : i < 2 ^ 63) : TakenAs (.number (.integer i)) i
  | double {x : Decimal.Binary64} {i : Int} (hValue : x.value = i)
      (hSmall : |x.value| < 9 * 10 ^ 15) : TakenAs (.number (.double x)) i

theorem Value.TakenAs.rational?_eq {v : Value} {i : Int} (h : v.TakenAs i) :
    v.rational? = some (i : ℚ) := by
  cases h with
  | integer => rfl
  | double hValue => exact congrArg some hValue

end Json

namespace Api

open Json

theorem natAbs_lt_doubleBound_iff {i : Int} {r : ℚ} (hValue : r = i) :
    i.natAbs < doubleBound ↔ |r| < 9 * 10 ^ 15 := by
  rw [hValue, ← Int.cast_abs, Int.abs_eq_natAbs, doubleBound]
  constructor
  · intro h
    have hCast : ((i.natAbs : Int) : ℚ) < (9000000000000000 : Nat) := by exact_mod_cast h
    exact hCast.trans_eq (by norm_num)
  · intro h
    have hCast : ((i.natAbs : Int) : ℚ) < (9000000000000000 : Nat) := h.trans_eq (by norm_num)
    exact_mod_cast hCast

theorem exactInteger?_eq_some_iff {n : Number} {i : Int}
    (hSound : (Value.number n).IsSound fun _ => True) :
    exactInteger? n = some i ↔ (Value.number n).TakenAs i := by
  cases hSound with
  | integer hLow _ =>
    rw [exactInteger?_integer]
    constructor
    · rintro ⟨rfl, hHigh⟩
      exact .integer hLow hHigh
    · intro h
      cases h with
      | integer _ hHigh => exact ⟨rfl, hHigh⟩
  | double =>
    rw [exactInteger?_double, Decimal.Binary64.hasValue_iff]
    constructor
    · rintro ⟨hValue, hSmall⟩
      exact .double hValue ((natAbs_lt_doubleBound_iff hValue).mp hSmall)
    · intro h
      cases h with
      | double hValue hSmall => exact ⟨hValue, (natAbs_lt_doubleBound_iff hValue).mpr hSmall⟩

/-! ## Checks of one number -/

/-- A check that takes what `takes` says, and answers everything else as a wrong argument. -/
structure Admits {α : Type} (check : Except Error α) (takes : α → Prop) : Prop where
  accepted : ∀ a, check = .ok a ↔ takes a
  refused : (¬ ∃ a, takes a) → ∃ e, check = .error e ∧ e.businessCode = some 401

theorem Admits.of_iff {α : Type} {check : Except Error α} {takes : α → Prop}
    (hAccepted : ∀ a, check = .ok a ↔ takes a)
    (hInvalid : ∀ e, check = .error e → ∃ text, e = .invalidArgument text) :
    Admits check takes := by
  refine ⟨hAccepted, fun hNone => ?_⟩
  cases hCheck : check with
  | ok a => exact absurd ⟨a, (hAccepted a).mp hCheck⟩ hNone
  | error e =>
    obtain ⟨text, rfl⟩ := hInvalid e hCheck
    exact ⟨_, rfl, rfl⟩

/-- An objection is a wrong argument, whatever it says. -/
theorem Admits.of_objection {α : Type} {check : Except Objection α} {takes : α → Prop}
    (hAccepted : ∀ a, check = .ok a ↔ takes a) :
    Admits (check.mapError Objection.error) takes := by
  refine .of_iff (fun a => mapError_eq_ok_iff.trans (hAccepted a)) fun e hError => ?_
  cases check with
  | ok a => exact nomatch hError
  | error o => exact ⟨o.message, (Except.error.inj hError).symm⟩

section OneNumber

variable {v : Value}

/-- The integer that an argument is taken for. -/
theorem integer_eq_ok_iff_taken (hSound : v.IsSound fun _ => True) {a : Arguments} {index : Nat}
    (hPlace : a.values[index]? = some v) {i : Int} : a.integer index = .ok i ↔ v.TakenAs i := by
  rw [Arguments.integer_eq_ok_iff, hPlace]
  constructor
  · rintro ⟨n, hNumber, hTaken⟩
    obtain rfl : v = .number n := Option.some.inj hNumber
    exact (exactInteger?_eq_some_iff hSound).mp hTaken
  · intro hTaken
    obtain ⟨n, rfl, -⟩ := Value.rational?_eq_some_iff.mp hTaken.rational?_eq
    exact ⟨n, rfl, (exactInteger?_eq_some_iff hSound).mpr hTaken⟩

theorem first_eq_ok_iff (hSound : v.IsSound fun _ => True) {method : String} {i : Int} :
    (Arguments.mk method [v]).integer 0 = .ok i ↔ v.TakenAs i :=
  integer_eq_ok_iff_taken hSound rfl

theorem rational?_code_iff {code : Nat} :
    v.rational? = some (code : ℚ) ↔ ∃ n, v = .number n ∧ n.HasValue code := by
  simp only [Value.rational?_eq_some_iff, Number.hasValue_iff, Int.cast_natCast]

theorem asked_setPowerMode_iff {c : PowerCall} :
    PowerCall.Asked "setPowerMode" [v] c ↔
      ∃ mode : Power.Mode, c = .setPowerMode mode ∧ v.rational? = some (mode.code : ℚ) := by
  simp only [rational?_code_iff]
  constructor
  · rintro ⟨m, hName, hTakes⟩
    have hMethod := (PowerCall.resolve_eq_some_iff.mpr hName).symm.trans
      (PowerMethod.resolve_name .setPowerMode)
    obtain rfl : m = .setPowerMode := Option.some.inj hMethod
    cases hTakes with
    | setPowerMode hValue => exact ⟨_, rfl, _, rfl, hValue⟩
  · rintro ⟨mode, rfl, n, rfl, hValue⟩
    exact ⟨.setPowerMode, .inl rfl, .setPowerMode hValue⟩

theorem asked_lock_iff {w : Value} {r : LockRequest} :
    LockRequest.Asked [w, v] r ↔
      w = .text r.name ∧ r.name ≠ "" ∧ v.rational? = some (r.kind.code : ℚ) := by
  rw [rational?_code_iff]
  constructor
  · rintro ⟨hName, hValue⟩
    exact ⟨rfl, hName, _, rfl, hValue⟩
  · obtain ⟨name, kind⟩ := r
    rintro ⟨rfl, hName, n, rfl, hValue⟩
    exact .intro hName hValue

/-- Whether an integer is the code of a kind that the platform supports. -/
theorem any_ofInt?_iff {p : Platform} {i : Int} :
    (Lock.Kind.ofInt? i).any p.supports = true ↔ ∃ kind ∈ p.supported, (kind.code : Int) = i := by
  simp only [Option.any_eq_true, Lock.Kind.ofInt?_eq_some_iff, Platform.supports,
    List.contains_iff_mem]
  constructor
  · rintro ⟨kind, hCode, hMem⟩
    exact ⟨kind, hMem, hCode.symm⟩
  · rintro ⟨kind, hMem, hCode⟩
    exact ⟨kind, hCode.symm, hMem⟩

/-- Whether a kind is supported is answered for every integer; one that is no kind's code is the
code of no supported kind either. -/
theorem isLockKindSupported_eq_ok_iff (hSound : v.IsSound fun _ => True) {p : Platform} {b : Bool} :
    isLockKindSupported [v] p = .ok b ↔
      (∃ i, v.TakenAs i) ∧
        (b = true ↔ ∃ kind ∈ p.supported, v.rational? = some (kind.code : ℚ)) := by
  have hAnswer : ∀ i, v.TakenAs i → ((Lock.Kind.ofInt? i).any p.supports = true ↔
      ∃ kind ∈ p.supported, v.rational? = some (kind.code : ℚ)) := by
    intro i hTaken
    rw [any_ofInt?_iff, hTaken.rational?_eq]
    have hCode : ∀ code : Nat, some (i : ℚ) = some (code : ℚ) ↔ (code : Int) = i := by
      intro code
      rw [Option.some.injEq, eq_comm]
      exact_mod_cast Iff.rfl
    simp only [hCode]
  unfold isLockKindSupported Arguments.lockKind
  simp only [bind_eq_ok_iff, map_eq_ok_iff, Arguments.expectCount_eq_ok_iff,
    first_eq_ok_iff hSound]
  constructor
  · rintro ⟨_, -, _, ⟨i, hTaken, rfl⟩, hGiven⟩
    obtain rfl := Except.ok.inj hGiven
    exact ⟨⟨i, hTaken⟩, hAnswer i hTaken⟩
  · rintro ⟨⟨i, hTaken⟩, hGiven⟩
    refine ⟨(), rfl, _, ⟨i, hTaken, rfl⟩, congrArg Except.ok ?_⟩
    exact Bool.eq_iff_iff.mpr ((hAnswer i hTaken).trans hGiven.symm)

/-- A hold is asked for with the integer itself as its timeout, unless that is negative. -/
theorem parse_hold_eq_ok_iff (hSound : v.IsSound fun _ => True) {m : LockMethod}
    (hHold : m = .hold ∨ m = .lock) {c : LockCall} :
    LockCall.parse m.name [v] = .ok c ↔ ∃ timeout : Nat, c = .hold timeout ∧ v.TakenAs timeout := by
  have hCheck : LockCall.parse m.name [v] =
      (Arguments.natural ⟨m.name, [v]⟩ 0 "timeout").map LockCall.hold := by
    unfold LockCall.parse
    rw [LockMethod.resolve_name]
    rcases hHold with rfl | rfl
    · show (Arguments.natural _ 0 "timeout" >>= _) = _
      cases Arguments.natural ⟨LockMethod.hold.name, [v]⟩ 0 "timeout" <;> rfl
    · show (Arguments.natural _ 0 "timeout" >>= _) = _
      cases Arguments.natural ⟨LockMethod.lock.name, [v]⟩ 0 "timeout" <;> rfl
  rw [hCheck]
  unfold Arguments.natural
  simp only [bind_eq_ok_iff, map_eq_ok_iff, first_eq_ok_iff hSound]
  constructor
  · rintro ⟨timeout, ⟨i, hTaken, hNatural⟩, rfl⟩
    cases i with
    | ofNat n =>
      obtain rfl := Except.ok.inj hNatural
      exact ⟨_, rfl, hTaken⟩
    | negSucc n => exact nomatch hNatural
  · rintro ⟨timeout, rfl, hTaken⟩
    exact ⟨timeout, ⟨timeout, hTaken, rfl⟩, rfl⟩

/-- The call for a hold is then made with that timeout. -/
theorem callLock_hold_eq (hSound : v.IsSound fun _ => True) {m : LockMethod}
    (hHold : m = .hold ∨ m = .lock) {timeout : Nat} (hTaken : v.TakenAs timeout)
    (l : Lock.Running) (h : Host) :
    callLock m.name [v] l h = (LockCall.hold timeout).run l h := by
  unfold callLock
  rw [(parse_hold_eq_ok_iff hSound hHold).mpr ⟨timeout, rfl, hTaken⟩]

end OneNumber

theorem exists_modeCode_iff {code : Nat} :
    (∃ mode : Power.Mode, mode.code = code) ↔ 600 ≤ code ∧ code ≤ 603 := by
  constructor
  · rintro ⟨mode, rfl⟩
    cases mode <;> decide
  · rintro ⟨hLow, hHigh⟩
    obtain rfl | rfl | rfl | rfl : code = 600 ∨ code = 601 ∨ code = 602 ∨ code = 603 := by omega
    · exact ⟨.normal, rfl⟩
    · exact ⟨.powerSave, rfl⟩
    · exact ⟨.performance, rfl⟩
    · exact ⟨.extremePowerSave, rfl⟩

theorem exists_lockCode_iff {code : Nat} :
    (∃ kind : Lock.Kind, kind.code = code) ↔ code = 1 ∨ code = 2 := by
  constructor
  · rintro ⟨kind, rfl⟩
    cases kind <;> decide
  · rintro (rfl | rfl)
    · exact ⟨.background, rfl⟩
    · exact ⟨.proximityScreenControl, rfl⟩

/-! ## Every numeric argument -/

/-- What becomes of a value wherever a call takes a number. -/
structure DecodedExactly (v : Value) : Prop where
  /-- As an argument, at any place, it is taken for an integer or answered as a wrong argument. -/
  argument : ∀ (a : Arguments) (index : Nat), a.values[index]? = some v →
    Admits ((a.integer index).mapError Objection.error) v.TakenAs
  /-- The integer is the exact value. -/
  value : ∀ i, v.TakenAs i → v.rational? = some (i : ℚ)
  /-- Only the four codes are taken as modes. -/
  modeCodes : ∀ h : Host, (∃ c, (PowerCall.parse "setPowerMode" [v] h).1 = .ok c) ↔
    ∃ code : Nat, (600 ≤ code ∧ code ≤ 603) ∧ v.rational? = some (code : ℚ)
  /-- The mode is the one with that code. -/
  mode : ∀ h : Host, Admits (PowerCall.parse "setPowerMode" [v] h).1 fun c =>
    ∃ mode : Power.Mode, c = .setPowerMode mode ∧ v.rational? = some (mode.code : ℚ)
  /-- Only the two codes are taken as kinds of lock. -/
  kindCodes : ∀ (method name : String), (∃ r, LockRequest.parse method [.text name, v] = .ok r) ↔
    name ≠ "" ∧ ∃ code : Nat, (code = 1 ∨ code = 2) ∧ v.rational? = some (code : ℚ)
  /-- The kind is the one with that code. -/
  kind : ∀ (method : String) (w : Value),
    Admits ((LockRequest.parse method [w, v]).mapError Objection.error) fun r =>
      w = .text r.name ∧ r.name ≠ "" ∧ v.rational? = some (r.kind.code : ℚ)
  /-- A kind is said to be supported only for its code; other integers are no supported kind. -/
  supported : ∀ p : Platform, Admits ((isLockKindSupported [v] p).mapError Objection.error) fun b =>
    (∃ i, v.TakenAs i) ∧ (b = true ↔ ∃ kind ∈ p.supported, v.rational? = some (kind.code : ℚ))
  /-- A timeout is the integer itself, and no integer below zero is one. -/
  timeout : ∀ m : LockMethod, m = .hold ∨ m = .lock →
    Admits ((LockCall.parse m.name [v]).mapError Objection.error) fun c =>
      ∃ timeout : Nat, c = .hold timeout ∧ v.TakenAs timeout
  /-- The lock is then held with that timeout. -/
  held : ∀ m : LockMethod, m = .hold ∨ m = .lock → ∀ timeout : Nat, v.TakenAs timeout →
    ∀ (l : Lock.Running) (h : Host), callLock m.name [v] l h = (LockCall.hold timeout).run l h

/-- Every numeric argument is decoded exactly. That `v` is sound says of its numbers only that an
integer has at most 64 bits. -/
theorem numbers_taken_exactly {v : Value} (hSound : v.IsSound fun _ => True) :
    DecodedExactly v where
  argument a index hPlace :=
    .of_objection fun _ => integer_eq_ok_iff_taken hSound hPlace
  value i hTaken := hTaken.rational?_eq
  modeCodes h := by
    simp only [PowerCall.parse_eq_ok_iff, asked_setPowerMode_iff, ← exists_modeCode_iff]
    constructor
    · rintro ⟨_, mode, rfl, hValue⟩
      exact ⟨_, ⟨mode, rfl⟩, hValue⟩
    · rintro ⟨_, ⟨mode, rfl⟩, hValue⟩
      exact ⟨_, mode, rfl, hValue⟩
  mode h :=
    .of_iff (fun _ => PowerCall.parse_eq_ok_iff.trans asked_setPowerMode_iff)
      fun _ => PowerCall.parse_invalid
  kindCodes method name := by
    simp only [LockRequest.parse_eq_ok_iff, asked_lock_iff, ← exists_lockCode_iff]
    constructor
    · rintro ⟨⟨_, kind⟩, hText, hName, hValue⟩
      obtain rfl := Value.text.inj hText
      exact ⟨hName, _, ⟨kind, rfl⟩, hValue⟩
    · rintro ⟨hName, _, ⟨kind, rfl⟩, hValue⟩
      exact ⟨⟨name, kind⟩, rfl, hName, hValue⟩
  kind method w :=
    .of_objection fun _ => LockRequest.parse_eq_ok_iff.trans asked_lock_iff
  supported p :=
    .of_objection fun _ => isLockKindSupported_eq_ok_iff hSound
  timeout m hHold :=
    .of_objection fun _ => parse_hold_eq_ok_iff hSound hHold
  held m hHold timeout hTaken l h := callLock_hold_eq hSound hHold hTaken l h

/-- The double `601` selects the mode with that code; its significand is the full one of 53 bits. -/
theorem numbers_taken_exactly_double :
    (Value.number (.double ⟨false, 0x12c80000000000, -43⟩)).IsSound (fun _ => True) ∧
      DecodedExactly (.number (.double ⟨false, 0x12c80000000000, -43⟩)) ∧
      (PowerCall.parse "setPowerMode" [.number (.double ⟨false, 0x12c80000000000, -43⟩)]
        { platform := { supported := [] }, origin := ⟨"", ""⟩ }).1 =
          .ok (.setPowerMode .powerSave) := by
  have hSound : (Value.number (.double ⟨false, 0x12c80000000000, -43⟩)).IsSound fun _ => True :=
    .double trivial
  have hValue : (Value.number (.double ⟨false, 0x12c80000000000, -43⟩)).rational? =
      some ((Power.Mode.powerSave.code : Nat) : ℚ) := by
    refine congrArg some ?_
    show ((0x12c80000000000 : Nat) : ℚ) * 2 ^ (-43 : Int) = (601 : Nat)
    norm_num
  exact ⟨hSound, numbers_taken_exactly hSound,
    ((numbers_taken_exactly hSound).mode _).accepted _ |>.mpr ⟨.powerSave, rfl, hValue⟩⟩

end Api

end DevicePower
