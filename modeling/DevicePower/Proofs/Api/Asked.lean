import DevicePower.Api.LockCall
import DevicePower.Api.PowerCall

/-!
# What a call asks for

A call comes as a name and a list of JSON values, and is checked step by step. What it asks for can
be said without the steps: the name is one of the method's two, the list has exactly the arguments
that the method takes, each of the right kind, and a number stands for a mode or a kind of lock if
its exact value is its code. This module says so, and proves that the checks accept just these
calls. All others are rejected as invalid arguments, before the platform is asked for anything.

## Main results

* `PowerCall.parse_eq_ok_iff`, `LockRequest.parse_eq_ok_iff`: which calls are accepted, and as what.
* `PowerCall.parse_invalid`: every power call that is rejected is an invalid argument.
-/

namespace DevicePower

/-- Whether a number has this integer as its exact value, however it was written. -/
def Json.Number.HasValue : Json.Number → Int → Prop
  | .integer i, n => i = n
  | .double x, n => x.HasValue n

namespace Power.Mode

theorem ofInt?_eq_some_iff {i : Int} {m : Mode} : ofInt? i = some m ↔ i = m.code := by
  constructor
  · intro h
    cases i with
    | ofNat n => exact congrArg Int.ofNat (code_of_ofCode? h).symm
    | negSucc n => exact nomatch h
  · rintro rfl
    exact ofCode?_code m

end Power.Mode

namespace Lock.Kind

theorem ofInt?_eq_some_iff {i : Int} {k : Kind} : ofInt? i = some k ↔ i = k.code := by
  constructor
  · intro h
    cases i with
    | ofNat n => exact congrArg Int.ofNat (code_of_ofCode? h).symm
    | negSucc n => exact nomatch h
  · rintro rfl
    exact ofCode?_code k

end Lock.Kind

namespace Api

/-! ## Numbers -/

theorem hasValue_of_exactInteger? {n : Json.Number} {i : Int} (h : exactInteger? n = some i) :
    n.HasValue i := by
  cases n with
  | integer j => exact ((exactInteger?_integer j i).mp h).1
  | double x => exact ((exactInteger?_double x i).mp h).1

/-- A small integer is taken from every number that has it as its value. -/
theorem exactInteger?_of_hasValue {n : Json.Number} {i : Int} (hSmall : i.natAbs < doubleBound)
    (h : n.HasValue i) : exactInteger? n = some i := by
  cases n with
  | integer j =>
    refine (exactInteger?_integer j i).mpr ⟨h, ?_⟩
    obtain rfl : j = i := h
    unfold doubleBound at hSmall
    unfold Text.half64
    omega
  | double x => exact (exactInteger?_double x i).mpr ⟨h, hSmall⟩

/-! ## Arguments -/

namespace Arguments

variable {a : Arguments}

theorem expectCount_eq_ok_iff {expected : Nat} {u : Unit} :
    a.expectCount expected = .ok u ↔ a.values.length = expected := by
  unfold expectCount count
  split
  · next h => exact iff_of_true rfl h
  · next h => exact iff_of_false (fun hOk => nomatch hOk) h

theorem text_eq_ok_iff {index : Nat} {s : String} :
    a.text index = .ok s ↔ a.values[index]? = some (.text s) := by
  unfold text
  split
  · next t h => rw [h]; simp
  · next hNot => exact iff_of_false (fun hOk => nomatch hOk) (hNot s)

theorem integer_eq_ok_iff {index : Nat} {i : Int} :
    a.integer index = .ok i ↔
      ∃ n, a.values[index]? = some (.number n) ∧ exactInteger? n = some i := by
  unfold integer
  split
  · next n h =>
    rw [h]
    simp only [Option.some.injEq, Json.Value.number.injEq, exists_eq_left']
    cases exactInteger? n <;> simp
  · next hNot =>
    refine iff_of_false (fun hOk => nomatch hOk) ?_
    rintro ⟨n, hValue, -⟩
    exact hNot n hValue

end Arguments

/-- A check that is followed by another succeeds if both do. -/
theorem bind_eq_ok_iff {ε α β : Type} {x : Except ε α} {f : α → Except ε β} {b : β} :
    x >>= f = .ok b ↔ ∃ a, x = .ok a ∧ f a = .ok b := by
  cases x with
  | error o => exact iff_of_false (fun hOk => nomatch hOk) fun ⟨_, hOk, _⟩ => nomatch hOk
  | ok a =>
    constructor
    · exact fun h => ⟨a, rfl, h⟩
    · rintro ⟨_, hOk, h⟩
      obtain rfl := Except.ok.inj hOk
      exact h

theorem map_eq_ok_iff {ε α β : Type} {x : Except ε α} {f : α → β} {b : β} :
    x.map f = .ok b ↔ ∃ a, x = .ok a ∧ f a = b := by
  cases x <;> simp [Except.map]

theorem mapError_eq_ok_iff {ε ε' α : Type} {x : Except ε α} {f : ε → ε'} {a : α} :
    x.mapError f = .ok a ↔ x = .ok a := by
  cases x with
  | ok b => constructor <;> (intro h; cases h; rfl)
  | error e => constructor <;> (intro h; cases h)

/-- There is one value, at the first place. -/
theorem eq_singleton_iff {values : List Json.Value} {v : Json.Value} :
    values.length = 1 ∧ values[0]? = some v ↔ values = [v] := by
  rcases values with _ | ⟨w, _ | ⟨x, rest⟩⟩ <;> simp

/-! ## Power calls -/

/-- The arguments that a method takes, and what it is asked for with them. -/
inductive PowerMethod.Takes : PowerMethod → List Json.Value → PowerCall → Prop
  | shutdown (reason : String) : Takes .shutdown [.text reason] (.act (.shutdown reason))
  | reboot (reason : String) : Takes .reboot [.text reason] (.act (.reboot reason))
  | wakeup (detail : String) : Takes .wakeup [.text detail] (.act (.wakeup detail))
  | suspend : Takes .suspend [] (.act .suspend)
  | isScreenOn : Takes .isScreenOn [] .isScreenOn
  | getPowerMode : Takes .getPowerMode [] .getPowerMode
  | setPowerMode {n : Json.Number} {mode : Power.Mode} (hValue : n.HasValue mode.code) :
      Takes .setPowerMode [.number n] (.setPowerMode mode)

namespace PowerCall

/-- What a call by this name with these arguments asks for. -/
def Asked (method : String) (values : List Json.Value) (c : PowerCall) : Prop :=
  ∃ m : PowerMethod, (m.name = method ∨ m.alias? = some method) ∧ m.Takes values c

variable {a : Arguments} {h : Host} {c : PowerCall}

/-- One text is wanted. -/
theorem text_call_eq_ok_iff {f : String → PowerCall} :
    ((oneText a).map f).mapError Objection.error = .ok c ↔ ∃ s, a.values = [.text s] ∧ f s = c := by
  rw [mapError_eq_ok_iff, map_eq_ok_iff]
  unfold oneText
  simp only [bind_eq_ok_iff, Arguments.expectCount_eq_ok_iff, Arguments.text_eq_ok_iff,
    exists_const, eq_singleton_iff]

/-- No argument is wanted. -/
theorem plain_call_eq_ok_iff {p : PowerCall} :
    ((a.expectCount 0).map fun _ => p).mapError Objection.error = .ok c ↔
      a.values = [] ∧ p = c := by
  rw [mapError_eq_ok_iff, map_eq_ok_iff]
  simp only [Arguments.expectCount_eq_ok_iff, List.length_eq_zero_iff, exists_const]

theorem oneInteger_eq_ok_iff {i : Int} :
    oneInteger a = .ok i ↔ ∃ n, a.values = [.number n] ∧ exactInteger? n = some i := by
  unfold oneInteger
  simp only [bind_eq_ok_iff, Arguments.expectCount_eq_ok_iff, Arguments.integer_eq_ok_iff,
    exists_const, ← eq_singleton_iff]
  constructor
  · rintro ⟨hCount, n, hValue, hInteger⟩
    exact ⟨n, ⟨hCount, hValue⟩, hInteger⟩
  · rintro ⟨n, ⟨hCount, hValue⟩, hInteger⟩
    exact ⟨hCount, n, hValue, hInteger⟩

theorem decodeMode_eq_ok_iff {i : Int} {m : Power.Mode} :
    (Power.decodeMode i h).1 = .ok m ↔ i = m.code := by
  rw [← Power.Mode.ofInt?_eq_some_iff]
  unfold Power.decodeMode
  cases Power.Mode.ofInt? i <;> simp

/-- The size of a mode's code, which is far below what calls can take. -/
theorem natAbs_code_lt (m : Power.Mode) : (m.code : Int).natAbs < doubleBound := by
  cases m <;> decide

/-- The checks of a method accept the arguments that it takes, and no others. -/
theorem check_eq_ok_iff {m : PowerMethod} {name : String} {values : List Json.Value} :
    (check m ⟨name, values⟩ h).1 = .ok c ↔ m.Takes values c := by
  cases m with
  | shutdown =>
    refine text_call_eq_ok_iff.trans ⟨?_, ?_⟩
    · rintro ⟨reason, hValues, rfl⟩
      obtain rfl : values = [.text reason] := hValues
      exact .shutdown reason
    · rintro ⟨⟩
      exact ⟨_, rfl, rfl⟩
  | reboot =>
    refine text_call_eq_ok_iff.trans ⟨?_, ?_⟩
    · rintro ⟨reason, hValues, rfl⟩
      obtain rfl : values = [.text reason] := hValues
      exact .reboot reason
    · rintro ⟨⟩
      exact ⟨_, rfl, rfl⟩
  | wakeup =>
    refine text_call_eq_ok_iff.trans ⟨?_, ?_⟩
    · rintro ⟨detail, hValues, rfl⟩
      obtain rfl : values = [.text detail] := hValues
      exact .wakeup detail
    · rintro ⟨⟩
      exact ⟨_, rfl, rfl⟩
  | suspend =>
    refine plain_call_eq_ok_iff.trans ⟨?_, ?_⟩
    · rintro ⟨hValues, rfl⟩
      obtain rfl : values = [] := hValues
      exact .suspend
    · rintro ⟨⟩
      exact ⟨rfl, rfl⟩
  | isScreenOn =>
    refine plain_call_eq_ok_iff.trans ⟨?_, ?_⟩
    · rintro ⟨hValues, rfl⟩
      obtain rfl : values = [] := hValues
      exact .isScreenOn
    · rintro ⟨⟩
      exact ⟨rfl, rfl⟩
  | getPowerMode =>
    refine plain_call_eq_ok_iff.trans ⟨?_, ?_⟩
    · rintro ⟨hValues, rfl⟩
      obtain rfl : values = [] := hValues
      exact .getPowerMode
    · rintro ⟨⟩
      exact ⟨rfl, rfl⟩
  | setPowerMode =>
    have hGiven := @oneInteger_eq_ok_iff ⟨name, values⟩
    unfold check
    dsimp only
    cases hOne : oneInteger ⟨name, values⟩ with
    | error o =>
      refine iff_of_false (fun hOk => nomatch hOk) ?_
      intro hTakes
      cases hTakes with
      | setPowerMode hValue =>
      have hTaken := exactInteger?_of_hasValue (natAbs_code_lt _) hValue
      exact nomatch hOne.symm.trans (hGiven.mpr ⟨_, rfl, hTaken⟩)
    | ok code =>
      obtain ⟨n, hValues, hTaken⟩ := hGiven.mp hOne
      obtain rfl : values = [.number n] := hValues
      dsimp only
      constructor
      · intro hOk
        cases hMode : (Power.decodeMode code h).1 with
        | error e => rw [hMode] at hOk; exact nomatch hOk
        | ok mode =>
          rw [hMode] at hOk
          obtain rfl : setPowerMode mode = c := Except.ok.inj hOk
          have hValue := hasValue_of_exactInteger? hTaken
          rw [decodeMode_eq_ok_iff.mp hMode] at hValue
          exact .setPowerMode hValue
      · intro hTakes
        cases hTakes with
        | setPowerMode hValue =>
        have hCode := exactInteger?_of_hasValue (natAbs_code_lt _) hValue
        have hSame := Option.some.inj (hTaken.symm.trans hCode)
        rw [decodeMode_eq_ok_iff.mpr hSame]
        rfl

theorem resolve_eq_some_iff {method : String} {m : PowerMethod} :
    PowerMethod.resolve method = some m ↔ m.name = method ∨ m.alias? = some method := by
  constructor
  · exact PowerMethod.eq_name_of_resolve
  · rintro (rfl | hAlias)
    · exact PowerMethod.resolve_name m
    · exact PowerMethod.resolve_alias hAlias

/-- A call is accepted exactly as what it asks for. -/
theorem parse_eq_ok_iff {method : String} {values : List Json.Value} :
    (parse method values h).1 = .ok c ↔ Asked method values c := by
  unfold parse Asked
  simp only [← resolve_eq_some_iff]
  cases hResolve : PowerMethod.resolve method with
  | none => exact iff_of_false (fun hOk => nomatch hOk) fun ⟨_, hSome, _⟩ => nomatch hSome
  | some m =>
    simp only [Option.some.injEq, exists_eq_left']
    exact check_eq_ok_iff

/-- A call asks for one thing at most. -/
theorem Asked.unique {method : String} {values : List Json.Value} {c c' : PowerCall}
    (hAsked : Asked method values c) (hAsked' : Asked method values c') : c = c' := by
  let silent : Host := { platform := { supported := [] }, origin := ⟨"", ""⟩ }
  have hParse := (parse_eq_ok_iff (h := silent)).mpr hAsked
  exact Except.ok.inj (hParse.symm.trans (parse_eq_ok_iff.mpr hAsked'))

theorem check_invalid {m : PowerMethod} {e : Error} (hError : (check m a h).1 = .error e) :
    ∃ text, e = .invalidArgument text := by
  have hPlain : ∀ x : Except Objection PowerCall, x.mapError Objection.error = .error e →
      ∃ text, e = .invalidArgument text := by
    intro x hMapped
    cases x with
    | error o => exact ⟨o.message, (Except.error.inj hMapped).symm⟩
    | ok c => exact nomatch hMapped
  cases m with
  | setPowerMode =>
    unfold check at hError
    dsimp only at hError
    split at hError
    · next o _ => exact ⟨o.message, (Except.error.inj hError).symm⟩
    · next code _ =>
      unfold Power.decodeMode at hError
      cases hMode : Power.Mode.ofInt? code with
      | none =>
        rw [hMode] at hError
        exact ⟨_, (Except.error.inj hError).symm⟩
      | some mode =>
        rw [hMode] at hError
        exact nomatch hError
  | _ => exact hPlain _ hError

/-- A call that is rejected is rejected as an invalid argument. -/
theorem parse_invalid {method : String} {values : List Json.Value} {e : Error}
    (hError : (parse method values h).1 = .error e) : ∃ text, e = .invalidArgument text := by
  unfold parse at hError
  split at hError
  · exact ⟨_, (Except.error.inj hError).symm⟩
  · exact check_invalid hError

theorem platform_check (m : PowerMethod) (a : Arguments) (h : Host) :
    (check m a h).2.platform = h.platform := by
  cases m with
  | setPowerMode =>
    unfold check
    dsimp only
    split
    · rfl
    · unfold Power.decodeMode
      dsimp only
      split <;> rfl
  | _ => rfl

theorem platform_noteAlias (m : PowerMethod) (given : String) (h : Host) :
    (noteAlias m given h).platform = h.platform := by
  unfold noteAlias
  split <;> rfl

/-- The platform is not asked for anything while a call is checked. -/
theorem platform_parse (method : String) (values : List Json.Value) (h : Host) :
    (parse method values h).2.platform = h.platform := by
  unfold parse
  split
  · rfl
  · rw [platform_check, platform_noteAlias]

end PowerCall

/-! ## New locks -/

namespace LockRequest

/-- What a call for a new lock with these arguments asks for. -/
inductive Asked : List Json.Value → LockRequest → Prop
  | intro {name : String} {n : Json.Number} {kind : Lock.Kind} (hName : name ≠ "")
      (hValue : n.HasValue kind.code) : Asked [.text name, .number n] ⟨name, kind⟩

/-- There are two values, at the first two places. -/
theorem eq_pair_iff {values : List Json.Value} {v w : Json.Value} :
    values.length = 2 ∧ values[0]? = some v ∧ values[1]? = some w ↔ values = [v, w] := by
  match values with
  | [] => simp
  | [x] => simp
  | [x, y] => simp
  | x :: y :: z :: rest => simp

theorem natAbs_code_lt (k : Lock.Kind) : (k.code : Int).natAbs < doubleBound := by
  cases k <;> decide

theorem lockKind_eq_ok_iff {a : Arguments} {index : Nat} {kind : Lock.Kind} :
    a.lockKind index = .ok (some kind) ↔
      ∃ n, a.values[index]? = some (.number n) ∧ n.HasValue kind.code := by
  unfold Arguments.lockKind
  simp only [map_eq_ok_iff, Arguments.integer_eq_ok_iff, Lock.Kind.ofInt?_eq_some_iff]
  constructor
  · rintro ⟨i, ⟨n, hValue, hTaken⟩, rfl⟩
    exact ⟨n, hValue, hasValue_of_exactInteger? hTaken⟩
  · rintro ⟨n, hValue, hCode⟩
    exact ⟨kind.code, ⟨n, hValue, exactInteger?_of_hasValue (natAbs_code_lt kind) hCode⟩, rfl⟩

/-- A call for a new lock is accepted exactly as what it asks for. -/
theorem parse_eq_ok_iff {method : String} {values : List Json.Value} {r : LockRequest} :
    parse method values = .ok r ↔ Asked values r := by
  unfold parse
  simp only [bind_eq_ok_iff, Arguments.expectCount_eq_ok_iff, Arguments.text_eq_ok_iff,
    exists_const]
  constructor
  · rintro ⟨hCount, name, hFirst, hRest⟩
    split at hRest
    · exact nomatch hRest
    · next hName =>
      obtain ⟨kind?, hKind, hMade⟩ := bind_eq_ok_iff.mp hRest
      cases kind? with
      | none => exact nomatch hMade
      | some kind =>
        obtain ⟨n, hSecond, hValue⟩ := lockKind_eq_ok_iff.mp hKind
        obtain rfl : LockRequest.mk name kind = r := Except.ok.inj hMade
        obtain rfl : values = [.text name, .number n] := eq_pair_iff.mp ⟨hCount, hFirst, hSecond⟩
        exact .intro (fun hEmpty => hName (by rw [hEmpty]; rfl)) hValue
  · rintro ⟨hName, hValue⟩
    refine ⟨rfl, _, rfl, ?_⟩
    rw [if_neg (by simpa using hName), lockKind_eq_ok_iff.mpr ⟨_, rfl, hValue⟩]
    rfl

end LockRequest

end Api

end DevicePower
