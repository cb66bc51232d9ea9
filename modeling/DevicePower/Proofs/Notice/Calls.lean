import DevicePower.Notice.Presenter
import DevicePower.Proofs.Lock.Operation

/-!
# What a sequence of calls does

The presenter makes its calls one after the other. A refusal does not keep it from making the rest,
a crash does. What is on record afterwards is said once here, for any sequence: the calls that are
accepted, up to the first in which the platform crashes. The answers of the platform do not change
meanwhile, so they can all be read off its condition before the first call.

## Main results

* `makes_attemptAll`: what making several calls leaves.
* `makes_close`, `makes_dismiss`: the calls that take the notice away.
* `acceptedOf_eq_filter`: without a crash, every call that is accepted is on record.
-/

namespace DevicePower

namespace Platform

/-- Whether the platform crashes in a call. -/
def crashes (p : Platform) (c : Call) : Bool :=
  match p.answer c with
  | .error .crashed => true
  | _ => false

/-- The calls of a sequence that are accepted. A crash ends the sequence. -/
def acceptedOf (p : Platform) (cs : List Call) : List Call :=
  (cs.takeWhile fun c => !p.crashes c).filter p.accepts

/-- The platform with more calls on record. -/
def recorded (p : Platform) (cs : List Call) : Platform := { p with calls := p.calls ++ cs }

variable {p : Platform} {c : Call} {e : Error}

theorem crashes_iff : p.crashes c = true ↔ p.answer c = .error .crashed := by
  unfold crashes
  cases p.answer c with
  | ok => simp
  | error f => cases f <;> simp

theorem accepts_iff : p.accepts c = true ↔ p.answer c = .ok () := by
  unfold accepts
  cases p.answer c <;> simp [Except.isOk, Except.toBool]

@[simp] theorem recorded_nil (p : Platform) : p.recorded [] = p := by
  simp [recorded]

theorem recorded_recorded (p : Platform) (first second : List Call) :
    (p.recorded first).recorded second = p.recorded (first ++ second) := by
  simp [recorded]

theorem attempt_of_ok (h : p.answer c = .ok ()) : p.attempt c = p.recorded [c] := by
  unfold attempt recorded
  rw [h]

/-- Calls on record do not change what the platform accepts. -/
@[simp] theorem acceptedOf_recorded (p : Platform) (made cs : List Call) :
    (p.recorded made).acceptedOf cs = p.acceptedOf cs := rfl

/-- Which calls of a sequence are accepted depends on how the platform answers. -/
theorem acceptedOf_congr {p p' : Platform} (h : p.answer = p'.answer) (cs : List Call) :
    p.acceptedOf cs = p'.acceptedOf cs := by
  unfold acceptedOf crashes accepts
  rw [h]

/-! ## One call more in front -/

theorem acceptedOf_cons_of_ok (h : p.answer c = .ok ()) (rest : List Call) :
    p.acceptedOf (c :: rest) = c :: p.acceptedOf rest := by
  have hCrash : p.crashes c = false := by simp [crashes, h]
  have hAccept : p.accepts c = true := accepts_iff.mpr h
  simp [acceptedOf, hCrash, hAccept]

theorem acceptedOf_cons_of_refused (h : p.answer c = .error (.refused e)) (rest : List Call) :
    p.acceptedOf (c :: rest) = p.acceptedOf rest := by
  have hCrash : p.crashes c = false := by simp [crashes, h]
  have hAccept : p.accepts c = false := by simp [accepts, h, Except.isOk, Except.toBool]
  simp [acceptedOf, hCrash, hAccept]

theorem acceptedOf_cons_of_crashed (h : p.answer c = .error .crashed) (rest : List Call) :
    p.acceptedOf (c :: rest) = [] := by
  have hCrash : p.crashes c = true := crashes_iff.mpr h
  simp [acceptedOf, hCrash]

/-- Without a crash in the first call, the rest of the sequence is made too. -/
theorem acceptedOf_cons_of_calm (h : p.crashes c = false) (rest : List Call) :
    p.acceptedOf (c :: rest) = p.acceptedOf [c] ++ p.acceptedOf rest := by
  unfold acceptedOf
  rw [List.takeWhile_cons_of_pos (by simp [h]), List.takeWhile_cons_of_pos (by simp [h]),
    ← List.filter_append]
  rfl

/-- A single call is on record if it is accepted. -/
theorem attempt_eq_recorded (p : Platform) (c : Call) :
    p.attempt c = p.recorded (p.acceptedOf [c]) := by
  cases hAnswer : p.answer c with
  | ok => rw [attempt_of_ok hAnswer, acceptedOf_cons_of_ok hAnswer]; rfl
  | error f =>
    rw [attempt_of_error hAnswer]
    cases f with
    | refused e => rw [acceptedOf_cons_of_refused hAnswer]; exact (recorded_nil p).symm
    | crashed => rw [acceptedOf_cons_of_crashed hAnswer, recorded_nil]

/-- What is accepted of a sequence was in it. -/
theorem mem_of_mem_acceptedOf {cs : List Call} (h : c ∈ p.acceptedOf cs) : c ∈ cs :=
  (List.takeWhile_sublist _).mem (List.mem_filter.mp h).1

theorem any_crashes_of_calm {cs : List Call} (h : ∀ c ∈ cs, p.crashes c = false) :
    cs.any p.crashes = false := by
  rw [List.any_eq_false]
  exact fun c hMem => Bool.eq_false_iff.mp (h c hMem)

/-- Without a crash, every call that is accepted is on record. -/
theorem acceptedOf_eq_filter {cs : List Call} (h : ∀ c ∈ cs, p.crashes c = false) :
    p.acceptedOf cs = cs.filter p.accepts := by
  induction cs with
  | nil => rfl
  | cons c rest ih =>
    have hHead : p.crashes c = false := h c List.mem_cons_self
    have hTail : p.acceptedOf rest = rest.filter p.accepts :=
      ih fun other hMem => h other (List.mem_cons_of_mem c hMem)
    cases hAccept : p.accepts c with
    | true =>
      rw [acceptedOf_cons_of_ok (accepts_iff.mp hAccept), hTail, List.filter_cons, hAccept]
      rfl
    | false =>
      rw [List.filter_cons, hAccept, ← hTail]
      simp [acceptedOf, hHead, hAccept]

end Platform

namespace Host

/-- What it means that a sequence of calls has been made, with this outcome: those accepted are on
record, no time has passed, and a crash was the outcome of a call. -/
structure Makes {α : Type} (h : Host) (cs : List Call) (outcome : Outcome α) (h' : Host) :
    Prop where
  platform_eq : h'.platform = h.platform.recorded (h.platform.acceptedOf cs)
  now_eq : h'.now = h.now
  crashed_iff : outcome = .error .crashed ↔ ∃ c ∈ cs, h.platform.crashes c = true

theorem makes_attemptOne (h : Host) (c : Call) :
    h.Makes [c] (h.attemptOne c).1 (h.attemptOne c).2 where
  platform_eq := Platform.attempt_eq_recorded h.platform c
  now_eq := rfl
  crashed_iff := by
    simp only [List.mem_singleton, exists_eq_left, Platform.crashes_iff]
    rfl

section Equations

variable {h : Host} {c : Call} {e : Error}

theorem attemptEach_of_ok (hAnswer : h.answer c = .ok ()) (rest : List Call) :
    h.attemptEach (c :: rest) = (h.attempt c).attemptEach rest := by
  rw [attemptEach, hAnswer]

theorem attemptEach_of_refused (hAnswer : h.answer c = .error (.refused e)) (rest : List Call) :
    h.attemptEach (c :: rest) =
      (((h.attempt c).attemptEach rest).1.map (e :: ·), ((h.attempt c).attemptEach rest).2) := by
  rw [attemptEach, hAnswer]

theorem attemptEach_of_crashed (hAnswer : h.answer c = .error .crashed) (rest : List Call) :
    h.attemptEach (c :: rest) = (.error .crashed, h.attempt c) := by
  rw [attemptEach, hAnswer]

end Equations

theorem makes_attemptEach (calls : List Call) :
    ∀ h : Host, h.Makes calls (h.attemptEach calls).1 (h.attemptEach calls).2 := by
  induction calls with
  | nil =>
    intro h
    exact ⟨(Platform.recorded_nil h.platform).symm, rfl, by simp [attemptEach]⟩
  | cons c rest ih =>
    intro h
    have hRest := ih (h.attempt c)
    have hSame : ∀ other, (h.attempt c).platform.crashes other = h.platform.crashes other := by
      intro other
      unfold Platform.crashes
      rw [platform_attempt, Platform.answer_attempt]
    have hAccepted : (h.attempt c).platform.acceptedOf rest = h.platform.acceptedOf rest := by
      rw [platform_attempt, Platform.attempt_eq_recorded, Platform.acceptedOf_recorded]
    -- What the calls behind a call leave, if there is no crash in it.
    have hPlatform : ((h.attempt c).attemptEach rest).2.platform =
        h.platform.recorded (h.platform.acceptedOf [c] ++ h.platform.acceptedOf rest) := by
      rw [hRest.platform_eq, hAccepted, platform_attempt, Platform.attempt_eq_recorded,
        Platform.recorded_recorded]
    have hCrashed : ((h.attempt c).attemptEach rest).1 = .error .crashed ↔
        ∃ other ∈ rest, h.platform.crashes other = true := by
      rw [hRest.crashed_iff]
      simp only [hSame]
    cases hAnswer : h.platform.answer c with
    | ok =>
      have hNot : ¬ h.platform.crashes c = true := by simp [Platform.crashes, hAnswer]
      rw [attemptEach_of_ok hAnswer]
      refine ⟨?_, hRest.now_eq, ?_⟩
      · rw [hPlatform, Platform.acceptedOf_cons_of_ok hAnswer,
          Platform.acceptedOf_cons_of_ok hAnswer]
        rfl
      · rw [hCrashed]
        simp [hNot]
    | error f =>
      cases f with
      | refused e =>
        have hNot : ¬ h.platform.crashes c = true := by simp [Platform.crashes, hAnswer]
        have hMap : ((h.attempt c).attemptEach rest).1.map (e :: ·) = .error .crashed ↔
            ((h.attempt c).attemptEach rest).1 = .error .crashed := by
          cases ((h.attempt c).attemptEach rest).1 <;> simp [Except.map]
        rw [attemptEach_of_refused hAnswer]
        refine ⟨?_, hRest.now_eq, ?_⟩
        · rw [hPlatform, Platform.acceptedOf_cons_of_refused hAnswer,
            Platform.acceptedOf_cons_of_refused hAnswer]
          rfl
        · rw [hMap, hCrashed]
          simp [hNot]
      | crashed =>
        rw [attemptEach_of_crashed hAnswer]
        have hCrash : h.platform.crashes c = true := Platform.crashes_iff.mpr hAnswer
        refine ⟨?_, rfl, iff_of_true rfl ⟨c, List.mem_cons_self, hCrash⟩⟩
        rw [Platform.acceptedOf_cons_of_crashed hAnswer, Platform.recorded_nil, platform_attempt,
          Platform.attempt_of_error hAnswer]

theorem platform_foldl_write (refusals : List Error) (h : Host) :
    (refusals.foldl (fun h e => h.write (stepRecord e)) h).platform = h.platform ∧
      (refusals.foldl (fun h e => h.write (stepRecord e)) h).now = h.now := by
  induction refusals generalizing h with
  | nil => exact ⟨rfl, rfl⟩
  | cons e rest ih => exact ih (h.write (stepRecord e))

/-- What making several calls leaves. -/
theorem makes_attemptAll (h : Host) (calls : List Call) :
    h.Makes calls (h.attemptAll calls).1 (h.attemptAll calls).2 := by
  obtain ⟨hPlatform, hNow, hCrashed⟩ := makes_attemptEach calls h
  unfold attemptAll
  generalize h.attemptEach calls = each at hPlatform hNow hCrashed ⊢
  obtain ⟨outcome, h'⟩ := each
  cases outcome with
  | error f => exact ⟨hPlatform, hNow, by simpa using hCrashed⟩
  | ok refusals =>
    obtain ⟨hSamePlatform, hSameNow⟩ := platform_foldl_write refusals h'
    refine ⟨hSamePlatform.trans hPlatform, hSameNow.trans hNow, ?_⟩
    rw [← hCrashed]
    cases refusals <;> simp

end Host

namespace Notice.Presenter

/-- The calls that close the notice at the authorizer's request. -/
def closing : Presenter → List Call
  | notification s => [.cancel s.id s.label]
  | capsule => dismissal capsule

theorem makes_close (p : Presenter) (h : Host) :
    h.Makes p.closing (p.close h).1 (p.close h).2 := by
  cases p with
  | notification s => exact h.makes_attemptOne (.cancel s.id s.label)
  | capsule => exact h.makes_attemptAll (dismissal capsule)

theorem makes_dismiss (p : Presenter) (h : Host) :
    h.Makes p.dismissal (p.dismiss h).1 (p.dismiss h).2 :=
  h.makes_attemptAll p.dismissal

end Notice.Presenter

end DevicePower
