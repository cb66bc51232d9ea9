import DevicePower.Pending

/-!
# What a handle reports, over every run

`Pending` has the three states that a caller can tell apart. Behind them are two sides: the
operation, which puts its result into a box with room for one and then goes away, and the caller,
who takes out what is in the box. Here the two sides take turns in any order. A caller who waits for
a while is one who looks when the time is over, after whatever turns the operation had by then.

The box does not remember what was taken out of it. Once the operation has gone away, an empty box
looks the same after a crash and after a result that was reported: both are abandonment.

## Main results

* `ask_eq_poll`, `finish_of_go`, `wait_eq`: the two sides are what `Pending` says of them.
* `reports_of_spent`, `reports_of_due`: what the calls report, from any state of the two sides.
* `heard_of_run`: over a whole run the first report is the result of the operation and every later
  one is abandonment, so all reports agree with the result just in case there is at most one of
  them or the result itself is abandonment.
-/

namespace DevicePower.Pending

variable {α : Type}

/-- What an operation that ended with `outcome` has to report. One that crashed has nothing. -/
def resultOf : Outcome α → Option (Except Error α)
  | .ok a => some (.ok a)
  | .error (.refused e) => some (.error e)
  | .error .crashed => none

/-- How far the side of the operation has come. -/
inductive Stage where
  /-- The operation has not ended. -/
  | running
  /-- The result has been put into the box, and the operation has not gone away yet. -/
  | delivered
  /-- Nothing will be put into the box any more. -/
  | gone
deriving DecidableEq

/-- The two sides of a handle. -/
structure Channel (α : Type) where
  /-- How far the operation has come. -/
  stage : Stage := .running
  /-- What has been put into the box and has not been taken out. -/
  box : Option (Except Error α) := none

/-- Whose turn it is. -/
inductive Turn where
  /-- The operation takes its next step. -/
  | goes
  /-- The time of a call is over, and the caller looks into the box. -/
  | asks
deriving DecidableEq

namespace Channel

/-- The next step of an operation that ends with `outcome`. -/
def go (outcome : Outcome α) (c : Channel α) : Channel α :=
  match c.stage with
  | .running =>
    match resultOf outcome with
    | some result => ⟨.delivered, some result⟩
    | none => { c with stage := .gone }
  | _ => { c with stage := .gone }

/-- Looks into the box, and takes out what is there. -/
def ask (c : Channel α) : Option (Except Error α) × Channel α :=
  match c.box with
  | some result => (some result, { c with box := none })
  | none => (if c.stage = .gone then some (.error abandoned) else none, c)

/-- Waits until there is something to report. -/
def wait (outcome : Outcome α) (c : Channel α) : Except Error α :=
  ((c.go outcome).go outcome).ask.1.getD (.error abandoned)

/-- What the calls among `turns` report, in their order. -/
def reports (outcome : Outcome α) : Channel α → List Turn → List (Except Error α)
  | _, [] => []
  | c, .goes :: turns => reports outcome (c.go outcome) turns
  | c, .asks :: turns => c.ask.1.toList ++ reports outcome c.ask.2 turns

/-- The two sides after `turns`. -/
def after (outcome : Outcome α) : Channel α → List Turn → Channel α
  | c, [] => c
  | c, .goes :: turns => after outcome (c.go outcome) turns
  | c, .asks :: turns => after outcome c.ask.2 turns

/-- The handle as its caller sees it. -/
def seen (c : Channel α) : Pending α :=
  match c.box with
  | some result => .ready result
  | none => if c.stage = .gone then .spent else .running

/-! ### The two sides against the handle -/

/-- A look into the box is a look at the handle. -/
theorem ask_eq_poll (c : Channel α) : c.ask.1 = c.seen.poll.1 := by
  obtain ⟨stage, box⟩ := c
  cases box with
  | some result => rfl
  | none => cases stage <;> rfl

/-- What a look leaves is what is left of the handle. Only between the last two steps of the
operation its caller cannot tell yet, with the result taken out, that nothing more will come. -/
theorem seen_of_ask {c : Channel α} (h : c.box = none ∨ c.stage = .gone) :
    c.ask.2.seen = c.seen.poll.2 := by
  obtain ⟨stage, box⟩ := c
  obtain rfl | rfl := h
  · cases stage <;> rfl
  · cases box <;> rfl

/-- The first step of the operation is the end of it, as the handle has it. -/
theorem finish_of_go {c : Channel α} (outcome : Outcome α) (hStage : c.stage = .running)
    (hBox : c.box = none) : (c.go outcome).seen = c.seen.finish outcome := by
  obtain ⟨stage, box⟩ := c
  obtain rfl : stage = .running := hStage
  obtain rfl : box = none := hBox
  cases outcome with
  | ok a => rfl
  | error failure => cases failure <;> rfl

/-- Waiting is waiting for the handle. -/
theorem wait_eq (outcome : Outcome α) :
    ({} : Channel α).wait outcome = (running : Pending α).wait outcome := by
  cases outcome with
  | ok a => rfl
  | error failure => cases failure <;> rfl

/-- To wait is to let the operation come to its end, and then to look. -/
theorem reports_wait (outcome : Outcome α) (c : Channel α) :
    reports outcome c [.goes, .goes, .asks] = [c.wait outcome] := by
  obtain ⟨stage, box⟩ := c
  cases stage <;> cases box <;> cases h : resultOf outcome <;>
    simp [reports, wait, go, ask, h]

theorem reports_append (outcome : Outcome α) (c : Channel α) (turns more : List Turn) :
    reports outcome c (turns ++ more) =
      reports outcome c turns ++ reports outcome (after outcome c turns) more := by
  induction turns generalizing c with
  | nil => rfl
  | cons turn turns ih => cases turn <;> simp [reports, after, ih]

/-! ### What is reported -/

/-- Nothing is in the box, and nothing will be. -/
def IsSpent (outcome : Outcome α) (c : Channel α) : Prop :=
  c.box = none ∧ (c.stage = .running → resultOf outcome = none)

/-- The result is in the box, or the operation will still put it there. -/
def IsDue (outcome : Outcome α) (result : Except Error α) (c : Channel α) : Prop :=
  resultOf outcome = some result ∧
    (c.stage = .running ∧ c.box = none ∨ c.stage ≠ .running ∧ c.box = some result)

theorem IsSpent.go {outcome : Outcome α} {c : Channel α} (h : c.IsSpent outcome) :
    (c.go outcome).IsSpent outcome := by
  obtain ⟨stage, box⟩ := c
  obtain ⟨hBox, hNone⟩ := h
  cases stage with
  | running => simpa [Channel.go, hNone rfl, IsSpent] using hBox
  | delivered => exact ⟨hBox, fun hStage => nomatch hStage⟩
  | gone => exact ⟨hBox, fun hStage => nomatch hStage⟩

/-- A spent box reports abandonment or nothing, and stays as it is. -/
theorem IsSpent.ask {outcome : Outcome α} {c : Channel α} (h : c.IsSpent outcome) :
    (c.ask.1 = none ∨ c.ask.1 = some (.error abandoned)) ∧ c.ask.2 = c := by
  obtain ⟨stage, box⟩ := c
  obtain rfl : box = none := h.1
  cases stage with
  | running => exact ⟨.inl rfl, rfl⟩
  | delivered => exact ⟨.inl rfl, rfl⟩
  | gone => exact ⟨.inr rfl, rfl⟩

theorem IsDue.go {outcome : Outcome α} {result : Except Error α} {c : Channel α}
    (h : c.IsDue outcome result) : (c.go outcome).IsDue outcome result := by
  obtain ⟨stage, box⟩ := c
  obtain ⟨hResult, ⟨rfl, -⟩ | ⟨hStage, hBox⟩⟩ := h
  · exact ⟨hResult, .inr (by simp [Channel.go, hResult])⟩
  · refine ⟨hResult, .inr ?_⟩
    cases stage with
    | running => exact absurd rfl hStage
    | delivered => exact ⟨Stage.noConfusion, hBox⟩
    | gone => exact ⟨Stage.noConfusion, hBox⟩

/-- Of a result that is due, a look sees nothing yet or takes it out. -/
theorem IsDue.ask {outcome : Outcome α} {result : Except Error α} {c : Channel α}
    (h : c.IsDue outcome result) :
    c.ask = (none, c) ∨ c.ask.1 = some result ∧ c.ask.2.IsSpent outcome := by
  obtain ⟨stage, box⟩ := c
  obtain ⟨-, ⟨rfl, rfl⟩ | ⟨hStage, rfl⟩⟩ := h
  · exact .inl rfl
  · exact .inr ⟨rfl, rfl, fun hRunning => absurd hRunning hStage⟩

/-- From a spent box every report is abandonment. -/
theorem reports_of_spent (outcome : Outcome α) (turns : List Turn) {c : Channel α}
    (h : c.IsSpent outcome) :
    ∃ n, reports outcome c turns = List.replicate n (.error abandoned) := by
  induction turns generalizing c with
  | nil => exact ⟨0, rfl⟩
  | cons turn turns ih =>
    cases turn with
    | goes => exact ih h.go
    | asks =>
      obtain ⟨n, hRest⟩ := ih h
      obtain ⟨hReport | hReport, hSame⟩ := h.ask
      · exact ⟨n, by simp [reports, hReport, hSame, hRest]⟩
      · exact ⟨n + 1, by simp [reports, hReport, hSame, hRest, List.replicate_succ]⟩

/-- While the result is due, the first report is the result, and abandonment follows. -/
theorem reports_of_due {outcome : Outcome α} {result : Except Error α} (turns : List Turn)
    {c : Channel α} (h : c.IsDue outcome result) :
    reports outcome c turns = [] ∨
      ∃ n, reports outcome c turns = result :: List.replicate n (.error abandoned) := by
  induction turns generalizing c with
  | nil => exact .inl rfl
  | cons turn turns ih =>
    cases turn with
    | goes => exact ih h.go
    | asks =>
      obtain hNothing | ⟨hReport, hSpent⟩ := h.ask
      · simpa [reports, hNothing] using ih h
      · obtain ⟨n, hRest⟩ := reports_of_spent outcome turns hSpent
        exact .inr ⟨n, by simp [reports, hReport, hRest]⟩

end Channel

open Channel

/-- What the calls of a caller report who asks during `turns` and then may wait for the rest. -/
def heard (outcome : Outcome α) (turns : List Turn) (waits : Bool) : List (Except Error α) :=
  reports outcome {} turns ++ if waits then [(after outcome {} turns).wait outcome] else []

/-- To wait in the end is to have three turns more. -/
theorem exists_heard_eq_reports (outcome : Outcome α) (turns : List Turn) (waits : Bool) :
    ∃ more, heard outcome turns waits = reports outcome {} (turns ++ more) := by
  cases waits with
  | false => exact ⟨[], by simp [heard]⟩
  | true => exact ⟨[.goes, .goes, .asks], by simp [heard, reports_append, reports_wait]⟩

/-- All reports are the result just in case no abandonment has been reported after it, or that was
the result. -/
theorem forall_eq_result_iff {result other : Except Error α} {heard : List (Except Error α)}
    (h : heard = [] ∨ ∃ n, heard = result :: List.replicate n other) :
    (∀ report ∈ heard, report = result) ↔ heard.length ≤ 1 ∨ result = other := by
  obtain rfl | ⟨n, rfl⟩ := h
  · simp
  · cases n with
    | zero => simp
    | succ n =>
      have hLong : ¬ (result :: List.replicate (n + 1) other).length ≤ 1 := by simp
      refine ⟨fun hAll => .inr (hAll other (by simp)).symm, ?_⟩
      rintro (hLength | rfl) report hReport
      · exact absurd hLength hLong
      · exact (List.mem_cons.mp hReport).elim id List.eq_of_mem_replicate

/-- Over every run of an operation and of calls on its handle, the last of which may be one that
waits: a call that waits reports something; after a crash every report is abandonment; the result
of an operation that has one is the first report, and every report after it is abandonment. So
the calls report nothing but the result just in case at most one of them reports anything, or the
result itself is abandonment. -/
theorem heard_of_run (outcome : Outcome α) (turns : List Turn) (waits : Bool) :
    (waits = true → heard outcome turns waits ≠ []) ∧
      match resultOf outcome with
      | none => ∀ report ∈ heard outcome turns waits, report = .error abandoned
      | some result =>
        (heard outcome turns waits = [] ∨
          ∃ n, heard outcome turns waits = result :: List.replicate n (.error abandoned)) ∧
        ((∀ report ∈ heard outcome turns waits, report = result) ↔
          (heard outcome turns waits).length ≤ 1 ∨ result = .error abandoned) := by
  obtain ⟨more, hHeard⟩ := exists_heard_eq_reports outcome turns waits
  refine ⟨fun hWaits => by simp [heard, hWaits], ?_⟩
  cases hResult : resultOf outcome with
  | none =>
    obtain ⟨n, hReports⟩ := reports_of_spent outcome (turns ++ more) (c := {})
      ⟨rfl, fun _ => hResult⟩
    intro report hReport
    rw [hHeard, hReports] at hReport
    exact List.eq_of_mem_replicate hReport
  | some result =>
    have hReports := reports_of_due (turns ++ more) (c := {}) ⟨hResult, .inl ⟨rfl, rfl⟩⟩
    rw [← hHeard] at hReports
    exact ⟨hReports, forall_eq_result_iff hReports⟩

/-- A caller who asks too early, asks again when the operation has ended, and then waits, is told
something, and after a crash nothing but abandonment. -/
theorem heard_after_early_call :
    heard (.ok 42 : Outcome Nat) [.asks, .goes, .asks] true ≠ [] ∧
      (∀ report ∈ heard (.error .crashed : Outcome Nat) [.asks, .goes, .asks] true,
        report = .error abandoned) :=
  ⟨(heard_of_run (.ok 42) [.asks, .goes, .asks] true).1 rfl,
    (heard_of_run (.error .crashed) [.asks, .goes, .asks] true).2⟩

/-- The operation returned 42, the first call reports it, and the second one reports that there
was no result. -/
theorem second_call_denies_result :
    resultOf (.ok 42 : Outcome Nat) = some (.ok 42) ∧
      heard (.ok 42 : Outcome Nat) [.goes, .goes, .asks, .asks] false =
        [.ok 42, .error abandoned] ∧
      ¬ ∀ report ∈ heard (.ok 42 : Outcome Nat) [.goes, .goes, .asks, .asks] false,
        report = .ok 42 := by
  refine ⟨rfl, rfl, fun hAll => ?_⟩
  have hSecond := hAll (.error abandoned) (.tail _ (.head _))
  exact nomatch hSecond

end DevicePower.Pending
