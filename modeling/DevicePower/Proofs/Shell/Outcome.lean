import DevicePower.Log.Filter
import DevicePower.Proofs.Api.Followed
import DevicePower.Proofs.Config.Loading
import DevicePower.Proofs.Json.OneLine
import DevicePower.Proofs.Lock.Operation
import DevicePower.Proofs.Notice.Answer
import DevicePower.Shell.Perform

/-!
# How command lines end

Scripts rely on how the shell ends: on the exit status, on what goes to the output, and on what is
reported. Success has a payload and no report, a failure has a report and no payload, and a notice
request that is turned down has a payload and a status of its own. For machines that read line by
line a payload is one line.

All of this holds of every command line, whatever is configured, found or asked for, as long as
nothing makes the shell crash. It crashes over the filter of its log where the library that reads
filters does, and over an output or an error stream that cannot be written; only a log for machines
goes on without the lines that cannot be written.

On the way there is one facade on a platform on which nothing was made to fail. What can go wrong
there is a wrong argument, a call that the platform cannot carry out, or a crash (`Plain`). So an
error of the notice channel is never reported as such.

## Main results

* `allowed_verdict`: the verdicts that a command may come to.
* `regular_of_allowed`: each of them ends as it should.
* `print_verdict`: what is printed over a verdict, if the shell does not crash over it.
* `survives_iff_of_takes`: where the streams can be written, only the filter matters.
* `run_regular_iff`: a command line ends as it should if and only if nothing makes the shell crash.
-/

namespace DevicePower

/-! ## What can go wrong on a platform without faults -/

/-- What can go wrong where nothing was made to fail. -/
inductive Failure.Plain : Failure → Prop
  | argument (text : String) : Plain (.refused (.invalidArgument text))
  | platform (text : String) : Plain (.refused (.platform none text))
  | crashed : Plain .crashed

/-- What the platform says where nothing was made to fail. -/
theorem Failure.plain_of_answer {h : Host} {c : Call} {f : Failure}
    (hFaults : h.platform.faults = []) (hAnswer : h.answer c = .error f) : f.Plain := by
  obtain ⟨text, rfl⟩ := Platform.code_of_faultless hFaults hAnswer
  exact .platform text

namespace Api

namespace Scene

/-- A move that makes up no fault leaves none. -/
theorem faults_of_done {s : Scene} {m : Move} {o : Outcome Unit} {f : Facade} {p : Platform}
    (hDone : Done s m o f p) (hPlain : m.isPlain = true) (hFaults : s.host.platform.faults = []) :
    p.faults = [] := by
  cases hDone with
  | settled _ _ hKept => exact hKept hPlain hFaults
  | _ => exact hFaults

/-- What can go wrong in a call. -/
theorem plain_of_done {s : Scene} {m : Move} {o : Outcome Unit} {f : Facade} {p : Platform}
    (hDone : Done s m o f p) (hFaults : s.host.platform.faults = []) {failure : Failure}
    (hFailed : o = .error failure) : failure.Plain := by
  cases hDone with
  | rejected _ => cases hFailed; exact .argument _
  | settled => exact nomatch hFailed
  | accepted => exact nomatch hFailed
  | failed _ hAnswer hLearns =>
    cases hFailed
    have hPlain := Failure.plain_of_answer hFaults hAnswer
    rcases hLearns with rfl | ⟨-, rfl⟩
    · exact hPlain
    · exact .platform _
  | unborne => cases hFailed; exact .crashed

/-- What can go wrong in a call with a result. -/
theorem plain_of_failed {α : Type} {x : Outcome α} {s : Scene} {m : Move} {f : Facade}
    {p : Platform} (hDone : Done s m (x.map fun _ => ()) f p)
    (hFaults : s.host.platform.faults = []) (failure : Failure) (hFailed : x = .error failure) :
    failure.Plain := by
  refine plain_of_done hDone hFaults ?_
  rw [hFailed]
  rfl

end Scene

/-- What can go wrong in a call on a lock. -/
theorem plain_callLock {method : String} {values : List Json.Value} {l : Lock.Running} {h : Host}
    (hFaults : h.platform.faults = []) {failure : Failure}
    (hFailed : (callLock method values l h).1 = .error failure) : failure.Plain := by
  unfold callLock at hFailed
  split at hFailed
  · cases hFailed
    exact .argument _
  · next c _ =>
    cases c with
    | isHolding => exact nomatch hFailed
    | hold timeout =>
      unfold LockCall.run at hFailed
      dsimp only at hFailed
      rcases l.hold_cases timeout h with ⟨f, hAnswer, hEq⟩ | ⟨h', hEq, _⟩ | ⟨_, _, _, hEq⟩
      · rw [hEq] at hFailed
        cases hFailed
        exact Failure.plain_of_answer hFaults hAnswer
      · rw [hEq] at hFailed
        exact nomatch hFailed
      · rw [hEq] at hFailed
        cases hFailed
        exact .crashed
    | release =>
      unfold LockCall.run at hFailed
      dsimp only at hFailed
      rcases l.release_cases h with ⟨_, hEq⟩ | ⟨f, _, hAnswer, hEq⟩ | ⟨h', hEq, _⟩
      · rw [hEq] at hFailed
        exact nomatch hFailed
      · rw [hEq] at hFailed
        cases hFailed
        exact Failure.plain_of_answer hFaults hAnswer
      · rw [hEq] at hFailed
        exact nomatch hFailed

end Api

namespace Shell

/-! ## What commands on the facade leave -/

/-- What a command may leave that sends no request: a payload with the status of success, or an
error that is neither of the notice channel nor of the configuration. -/
def Ordinary : Except Error Payload → Prop
  | .ok p => p.exit = .clean
  | .error e => e.category = .argument ∨ e.category = .platform

/-- A payload with the same status is as good. -/
theorem ordinary_map {result : Except Error Payload} {change : Payload → Payload}
    (hExit : ∀ p, (change p).exit = p.exit) (h : Ordinary result) :
    Ordinary (result.map change) := by
  cases result with
  | ok p => exact (hExit p).trans h
  | error e => exact h

/-- Who learns of a failure learns of an argument or of the platform. -/
theorem category_of_settled {α : Type} {outcome : Outcome α}
    (hPlain : ∀ failure, outcome = .error failure → failure.Plain) {e : Error}
    (hError : settled outcome = .error e) : e.category = .argument ∨ e.category = .platform := by
  unfold settled at hError
  rw [Pending.wait_running] at hError
  match outcome with
  | .ok a => exact nomatch hError
  | .error failure =>
    cases hPlain failure rfl with
    | argument text => cases hError; exact Or.inl rfl
    | platform text => cases hError; exact Or.inr rfl
    | crashed => cases hError; exact Or.inr rfl

section OnFacade

variable {f : Facade} {h : Host}

theorem ordinary_power (method : String) (values : List Json.Value)
    {payload : Json.Value → Facade → Payload} (hClean : ∀ v f, (payload v f).exit = .clean)
    (hFaults : h.platform.faults = []) : Ordinary (power method values payload f h).1 := by
  have hDone := Api.Scene.done_power ⟨f, h⟩ .direct method values
  have hOutcome : ∀ failure, (f.callPower .direct method values h).1 = .error failure →
      failure.Plain := Api.Scene.plain_of_failed hDone hFaults
  unfold power
  dsimp only
  cases hSettled : settled (f.callPower .direct method values h).1 with
  | ok v => exact hClean v _
  | error e => exact category_of_settled hOutcome hSettled

/-- An operation on a lock of the facade ends as it does on the lock. -/
theorem outcome_of_onLock? {α : Type} {id : Nat}
    {op : Lock.Running → Host → Outcome α × Lock.Running × Host} {outcome : Outcome α}
    {f' : Facade} {h' : Host} (hOn : f.onLock? id h op = some (outcome, f', h')) :
    ∃ l, (op l h).1 = outcome := by
  unfold Facade.onLock? Lock.Registry.onLock? at hOn
  rw [Option.map_map] at hOn
  obtain ⟨l, -, hEq⟩ := Option.map_eq_some_iff.mp hOn
  exact ⟨l, congrArg Prod.fst hEq⟩

theorem ordinary_holdLock (m : Machine) (id hold : Nat) (wait : Bool)
    (hFaults : h.platform.faults = []) : Ordinary (holdLock m id hold wait f h).1 := by
  unfold holdLock
  split
  · exact Or.inr rfl
  · next failure f' h' hOn =>
    obtain ⟨l, hOutcome⟩ := outcome_of_onLock? hOn
    have hPlain : failure.Plain := Api.plain_callLock hFaults hOutcome
    dsimp only
    cases hSettled : settled (.error failure : Outcome Payload) with
    | ok p => cases failure <;> exact nomatch hSettled
    | error e =>
      refine category_of_settled (fun other hOther => ?_) hSettled
      cases hOther
      exact hPlain
  · dsimp only
    split
    · exact Or.inr rfl
    · rfl

theorem ordinary_lock (m : Machine) (name kind : String) (hold : Nat) (wait : Bool)
    (hFaults : h.platform.faults = []) : Ordinary (lock m name kind hold wait f h).1 := by
  unfold lock
  split
  · exact Or.inl rfl
  · next kind _ =>
    have hDone := Api.Scene.done_createLock ⟨f, h⟩ .direct "createRunningLock"
      [.text name, .nat kind.code]
    have hOutcome : ∀ failure, (f.createLock .direct "createRunningLock"
        [.text name, .nat kind.code] h).1 = .error failure → failure.Plain :=
      Api.Scene.plain_of_failed hDone hFaults
    have hKept : (f.createLock .direct "createRunningLock"
        [.text name, .nat kind.code] h).2.2.platform.faults = [] :=
      Api.Scene.faults_of_done hDone rfl hFaults
    dsimp only
    generalize f.createLock .direct "createRunningLock" [.text name, .nat kind.code] h = made at *
    obtain ⟨made, f', h'⟩ := made
    dsimp only at *
    cases hSettled : settled made with
    | error e => exact category_of_settled hOutcome hSettled
    | ok id => exact ordinary_map (fun _ => rfl) (ordinary_holdLock m id hold wait hKept)

/-! ## The notice command -/

/-- The request that the shell sends on the notice channel. -/
def sent (m : Machine) (code : UInt32) : Notice.Service.Request := ⟨⟨m.pid, 0⟩, code⟩

/-- The reply to the request of the shell. -/
def noticeReply (m : Machine) (code : UInt32) (token : Option String) (pid : Option Int32)
    (f : Facade) (h : Host) : Notice.Reply :=
  (f.notice.onRequest (sent m code) (noticeRequest (token.getD f.config.notice.token) pid) {}
    (Notice.Service.connected (sent m code).caller h)).1

/-- The reply is always read, and its status decides that of the shell. -/
theorem exit_notice (m : Machine) (code : UInt32) (token : Option String) (pid : Option Int32)
    (f : Facade) (h : Host) :
    ∃ p, (notice m code token pid f h).1 = .ok p ∧
      (p.exit = .clean ∧ (noticeReply m code token pid f h).status = 0 ∨
        p.exit = .ipcRejected ∧ (noticeReply m code token pid f h).status = -1) := by
  obtain ⟨answer, rest, t, h', hRequest, hAnswered, -⟩ :=
    f.notice.onRequest_cases (sent m code) (noticeRequest (token.getD f.config.notice.token) pid) {}
      (Notice.Service.connected (sent m code).caller h)
  have hReply : noticeReply m code token pid f h = answer := congrArg Prod.fst hRequest
  obtain ⟨q, hRead, -⟩ := answer.read_write {} hAnswered.size_le
  have hReceive : f.notice.receive (sent m code)
      (noticeRequest (token.getD f.config.notice.token) pid) {}
      (Notice.Service.connected (sent m code).caller h) =
      (true, rest, answer.write {}, { f.notice with table := t }, h') := by
    unfold Notice.Service.receive
    rw [hRequest]
  have hFresh : Notice.Reply.read (answer.write {}) = (.ok answer, q) := hRead
  have hStatus : (if answer.isSuccess then Exit.clean else .ipcRejected) = .clean ∧
        answer.status = 0 ∨
      (if answer.isSuccess then Exit.clean else .ipcRejected) = .ipcRejected ∧
        answer.status = -1 := by
    have hAll : ∀ reply ∈ [Notice.Reply.success, .failed, .tokenMismatch, .notSupported],
        (if reply.isSuccess then Exit.clean else .ipcRejected) = .clean ∧ reply.status = 0 ∨
        (if reply.isSuccess then Exit.clean else .ipcRejected) = .ipcRejected ∧
          reply.status = -1 := by decide
    exact hAll answer hAnswered.mem
  rw [hReply]
  unfold notice
  dsimp only
  rw [show (⟨⟨m.pid, 0⟩, code⟩ : Notice.Service.Request) = sent m code from rfl,
    show (⟨m.pid, 0⟩ : Caller) = (sent m code).caller from rfl, hReceive, hFresh]
  exact ⟨_, rfl, hStatus⟩

end OnFacade

/-! ## The verdicts of all commands -/

/-- The reply to the notice request of a command line, if the command sends one. -/
def Invocation.reply? (i : Invocation) (m : Machine) : Option Notice.Reply :=
  match i.command with
  | .notice code token pid =>
    match m.load (i.configPath.map Config.Path.ofText) with
    | .error _ => none
    | .ok l =>
      match Facade.start l.config (Facade.hostFor l.config m.origin) with
      | (.ok f, h) => some (noticeReply m code token pid f (m.running h))
      | (.error _, _) => none
  | _ => none

/-- The verdicts that a command may come to, with the reply to its notice request. -/
inductive Verdict.Allowed (reply? : Option Notice.Reply) : Verdict → Prop where
  | done {p : Payload} (hExit : p.exit = .clean)
      (hReply : ∀ reply, reply? = some reply → reply.status = 0) : Allowed reply? (.done p)
  | rejected {p : Payload} {reply : Notice.Reply} (hExit : p.exit = .ipcRejected)
      (hReply : reply? = some reply) (hStatus : reply.status = -1) : Allowed reply? (.done p)
  | failed {e : Error} (hCategory : e.category = .argument ∨ e.category = .platform)
      (hReply : reply? = none) : Allowed reply? (.failed e)
  | unconfigured (e : Config.LoadError) (hReply : reply? = none) : Allowed reply? (.unconfigured e)

section Verdicts

variable {m : Machine} {path : Option String}

/-- A command on the facade ends for want of a configuration, or it runs on a facade that has just
been started on a platform on which nothing was made to fail. -/
theorem withFacade_cases (m : Machine) (path : Option String) (isNotice : Bool)
    (command : Facade → Host → Result) :
    (∃ e, m.load (path.map Config.Path.ofText) = .error e ∧
      (withFacade m path isNotice command).1 = .unconfigured e) ∨
    ∃ l f h, m.load (path.map Config.Path.ofText) = .ok l ∧
      Facade.start l.config (Facade.hostFor l.config m.origin) = (.ok f, h) ∧
      (m.running h).platform.faults = [] ∧
      (withFacade m path isNotice command).1 =
        match (command f (m.running h)).1 with
        | .ok p => .done p
        | .error e => .failed e := by
  unfold withFacade withConfig
  cases hLoad : m.load (path.map Config.Path.ofText) with
  | error e => exact Or.inl ⟨e, rfl, rfl⟩
  | ok l =>
    obtain ⟨f, h, hStart, hStarted⟩ :=
      Facade.started_of_validate (Config.validate_of_load hLoad) m.origin
    refine Or.inr ⟨l, f, h, rfl, hStart, hStarted.faults_eq, ?_⟩
    dsimp only
    rw [hStart]
    dsimp only
    generalize command f (m.running h) = left
    obtain ⟨result, f', h'⟩ := left
    cases result <;> rfl

/-- A command that sends no request. -/
theorem allowed_withFacade {command : Facade → Host → Result}
    (hOrdinary : ∀ f h, h.platform.faults = [] → Ordinary (command f h).1) :
    (withFacade m path false command).1.Allowed none := by
  rcases withFacade_cases m path false command with ⟨e, _, hEq⟩ | ⟨l, f, h, _, _, hFaults, hEq⟩
  · rw [hEq]
    exact .unconfigured e rfl
  · have hLeft := hOrdinary f (m.running h) hFaults
    rw [hEq]
    cases hResult : (command f (m.running h)).1 with
    | ok p =>
      rw [hResult] at hLeft
      exact .done hLeft nofun
    | error e =>
      rw [hResult] at hLeft
      exact .failed hLeft rfl

/-- A command that needs no facade. -/
theorem allowed_withConfig {payload : Config.Loaded → Payload}
    (hClean : ∀ l, (payload l).exit = .clean) :
    (withConfig m path fun l => (.done (payload l), [])).1.Allowed none := by
  unfold withConfig
  cases m.load (path.map Config.Path.ofText) with
  | error e => exact .unconfigured e rfl
  | ok l => exact .done (hClean l) nofun

/-- The command that sends a request. -/
theorem allowed_notice (i : Invocation) (m : Machine) {code : UInt32} {token : Option String}
    {pid : Option Int32} (hCommand : i.command = .notice code token pid) :
    (withFacade m i.configPath true (notice m code token pid)).1.Allowed (i.reply? m) := by
  unfold Invocation.reply?
  rw [hCommand]
  dsimp only
  rcases withFacade_cases m i.configPath true (notice m code token pid) with
    ⟨e, hLoad, hEq⟩ | ⟨l, f, h, hLoad, hStart, _, hEq⟩
  · rw [hEq, hLoad]
    exact .unconfigured e rfl
  · obtain ⟨p, hPayload, hEnds⟩ := exit_notice m code token pid f (m.running h)
    rw [hEq, hPayload, hLoad]
    dsimp only
    rw [hStart]
    rcases hEnds with ⟨hExit, hStatus⟩ | ⟨hExit, hStatus⟩
    · refine .done hExit ?_
      intro reply hReply
      cases hReply
      exact hStatus
    · exact .rejected hExit rfl hStatus

/-- Every other command. -/
theorem allowed_of_other {c : Command} (hOther : ∀ code token pid, c ≠ .notice code token pid) :
    (c.verdict m path).1.Allowed none := by
  cases c with
  | setMode code =>
    exact allowed_withFacade fun f h => ordinary_power "setPowerMode" _ (fun _ _ => rfl)
  | getMode =>
    exact allowed_withFacade fun f h => ordinary_power "getPowerMode" _ (fun _ _ => rfl)
  | wakeup detail =>
    exact allowed_withFacade fun f h => ordinary_power "wakeup" _ (fun _ _ => rfl)
  | suspend => exact allowed_withFacade fun f h => ordinary_power "suspend" _ (fun _ _ => rfl)
  | screen => exact allowed_withFacade fun f h => ordinary_power "isScreenOn" _ (fun _ _ => rfl)
  | dump => exact allowed_withFacade fun f h _ => rfl
  | lock name kind hold wait =>
    exact allowed_withFacade fun f h => ordinary_lock m name kind hold wait
  | notice code token pid => exact absurd rfl (hOther code token pid)
  | showConfig => exact allowed_withConfig fun _ => rfl
  | validateConfig given => exact allowed_withConfig fun _ => rfl
  | schema => exact .done rfl nofun
  | version => exact .done rfl nofun

end Verdicts

/-- The verdict on every command line is one of those that are allowed. -/
theorem allowed_verdict (i : Invocation) (m : Machine) :
    (i.command.verdict m i.configPath).1.Allowed (i.reply? m) := by
  by_cases hNotice : ∃ code token pid, i.command = .notice code token pid
  · obtain ⟨code, token, pid, hCommand⟩ := hNotice
    have hAllowed := allowed_notice i m hCommand
    rw [hCommand]
    exact hAllowed
  · have hOther : ∀ code token pid, i.command ≠ .notice code token pid :=
      fun code token pid hCommand => hNotice ⟨code, token, pid, hCommand⟩
    have hNone : i.reply? m = none := by
      unfold Invocation.reply?
      cases hCommand : i.command with
      | notice code token pid => exact absurd hCommand (hOther code token pid)
      | _ => rfl
    rw [hNone]
    exact allowed_of_other hOther

/-! ## Endings -/

/-- How a command line ends as it should, in a form of output and with the reply to its notice
request. -/
structure Ending.Regular (e : Ending) (o : Output) (reply? : Option Notice.Reply) : Prop where
  status_mem : ∃ code ∈ [0, 10, 11, 12, 13, 21], e.status = some code
  /-- There is a payload exactly for success and for a request that was turned down. -/
  output_iff : e.output ≠ "" ↔ e.status = some 0 ∨ e.status = some 13
  /-- There is a report exactly for every other failure. -/
  report_iff : e.report ≠ "" ↔ ∃ code ∈ [10, 11, 12, 21], e.status = some code
  rejected_iff : e.status = some 13 ↔ ∃ reply, reply? = some reply ∧ reply.status = -1
  /-- For machines that read line by line the payload is one line. -/
  one_line : o = .jsonl → e.output ≠ "" →
    ∃ line, '\n' ∉ line ∧ e.output = String.ofList (line ++ ['\n'])

/-- How a verdict ends where the shell does not crash while it prints, and what was written of the
log. -/
def Verdict.ending (v : Verdict) (o : Output) (written : List Log.Entry) : Ending :=
  match v with
  | .done p =>
    { status := some p.exit.code, output := o.render p.document p.text, journal := written }
  | .failed e =>
    { status := some (Exit.ofError e).code, journal := written, report := errorReport o e }
  | .unconfigured e =>
    { status := some (loadExit e).code, journal := written, report := loadReport o e }

/-- A payload that is printed is not empty. -/
theorem render_ne_empty (o : Output) (document : Json.Value) (text : String) :
    o.render document text ≠ "" := by
  have hEnds : ∀ s : String, s ++ "\n" ≠ "" := by
    intro s hEmpty
    have hLength := congrArg String.length hEmpty
    simp [String.length_append] at hLength
  cases o <;> exact hEnds _

/-- The report of a failure to load the configuration is not empty. -/
theorem loadReport_ne_empty (o : Output) (e : Config.LoadError) : loadReport o e ≠ "" := by
  intro hEmpty
  have hLength := congrArg String.length hEmpty
  unfold loadReport at hLength
  split at hLength <;> simp [String.length_append] at hLength

/-- A document on one line, with the line break behind it, is one line. -/
theorem render_jsonl (document : Json.Value) (text : String) :
    ∃ line, '\n' ∉ line ∧
      Output.render .jsonl document text = String.ofList (line ++ ['\n']) := by
  refine ⟨Json.print document, Json.newline_notMem_print document, ?_⟩
  show String.ofList (Json.print document) ++ "\n" = _
  rw [String.ofList_append]

/-- An ending with a payload. -/
theorem regular_of_output {status : Nat} {reply? : Option Notice.Reply}
    (hStatus : status = 0 ∨ status = 13)
    (hReply : status = 13 ↔ ∃ reply, reply? = some reply ∧ reply.status = -1) (o : Output)
    (document : Json.Value) (text : String) (journal : List Log.Entry) :
    ({ status := some status, output := o.render document text, journal } : Ending).Regular o
      reply? := by
  have hMem : status ∈ [0, 10, 11, 12, 13, 21] := by rcases hStatus with rfl | rfl <;> decide
  have hNotMem : ∀ code ∈ [10, 11, 12, 21], some status ≠ some code := by
    rcases hStatus with rfl | rfl <;> decide
  refine ⟨⟨status, hMem, rfl⟩, iff_of_true (render_ne_empty o document text) ?_,
    iff_of_false (fun hNot => hNot rfl) ?_, Option.some_inj.trans hReply, ?_⟩
  · exact hStatus.imp (congrArg some) (congrArg some)
  · rintro ⟨code, hCode, hSame⟩
    exact hNotMem code hCode hSame
  · rintro rfl -
    exact render_jsonl document text

/-- An ending with a report. -/
theorem regular_of_report {status : Nat} (hStatus : status ∈ [10, 11, 12, 21]) {report : String}
    (hReport : report ≠ "") (o : Output) (journal : List Log.Entry) :
    ({ status := some status, journal, report } : Ending).Regular o none := by
  have hAll : ∀ n ∈ [10, 11, 12, 21],
      n ∈ [0, 10, 11, 12, 13, 21] ∧ ¬ (some n = some 0 ∨ some n = some 13) ∧ some n ≠ some 13 := by
    decide
  obtain ⟨hMem, hNoPayload, hNotRejected⟩ := hAll status hStatus
  exact ⟨⟨status, hMem, rfl⟩, iff_of_false (fun hNot => hNot rfl) hNoPayload,
    iff_of_true hReport ⟨status, hStatus, rfl⟩, iff_of_false hNotRejected nofun,
    fun _ hOutput => absurd rfl hOutput⟩

/-- The status of a failure to load the configuration. -/
theorem code_loadExit_mem (e : Config.LoadError) : (loadExit e).code ∈ [10, 11, 12, 21] := by
  have hBoth : Exit.configError.code ∈ [10, 11, 12, 21] ∧ Exit.ioError.code ∈ [10, 11, 12, 21] := by
    decide
  cases e with
  | unreadable path reason => exact hBoth.2
  | _ => exact hBoth.1

/-- Every verdict that is allowed ends as it should. -/
theorem regular_of_allowed {v : Verdict} {reply? : Option Notice.Reply} (h : v.Allowed reply?)
    (o : Output) (journal : List Log.Entry) : (v.ending o journal).Regular o reply? := by
  cases h with
  | @done p hExit hReply =>
    unfold Verdict.ending
    dsimp only
    rw [hExit]
    refine regular_of_output (Or.inl rfl) (iff_of_false (by decide) ?_) o _ _ journal
    rintro ⟨reply, hIs, hRejected⟩
    exact absurd ((hReply reply hIs).symm.trans hRejected) (by decide)
  | @rejected p reply hExit hReply hStatus =>
    unfold Verdict.ending
    dsimp only
    rw [hExit]
    exact regular_of_output (Or.inr rfl) (iff_of_true rfl ⟨reply, hReply, hStatus⟩) o _ _ journal
  | @failed e hCategory hReply =>
    rw [hReply]
    refine regular_of_report ?_ (report_ofError o e) o journal
    unfold Exit.ofError
    rcases hCategory with hArgument | hPlatform
    · rw [hArgument]
      decide
    · rw [hPlatform]
      decide
  | unconfigured e hReply =>
    rw [hReply]
    exact regular_of_report (code_loadExit_mem e) (loadReport_ne_empty o e) o journal

/-! ## Printing -/

section Printing

variable {m : Machine} {format : Log.Format} {status : Nat}

/-- Lines of the log over which the shell does not crash are written or lost, and it goes on. -/
theorem print_records (status : Nat) (passes : Log.Record → Bool) (rest : List Print)
    {journal : List Log.Entry}
    (hSurvived : ∀ p ∈ Print.records passes journal, m.fate format p ≠ .crashed) (e : Ending) :
    ∃ written, m.print format status e (Print.records passes journal ++ rest) =
      m.print format status { e with journal := e.journal ++ written } rest := by
  unfold Print.records at *
  generalize journal.filter (fun entry => passes entry.record) = kept at *
  induction kept generalizing e with
  | nil => exact ⟨[], by rw [List.append_nil]; rfl⟩
  | cons entry others ih =>
    have hOthers := fun p hMem => hSurvived p (List.mem_cons_of_mem _ hMem)
    rw [List.map_cons, List.cons_append, Machine.print]
    cases hFate : m.fate format (.record entry) with
    | written =>
      obtain ⟨written, hPrint⟩ := ih (e.add (.record entry)) hOthers
      refine ⟨entry :: written, hPrint.trans ?_⟩
      simp [Ending.add]
    | lost => exact ih e hOthers
    | crashed => exact absurd hFate (hSurvived _ List.mem_cons_self)

/-- What is not in the log is written or the shell crashes. -/
theorem fate_eq_written {p : Print} (hOther : ∀ entry, p ≠ .record entry)
    (hSurvived : m.fate format p ≠ .crashed) : m.fate format p = .written := by
  cases p with
  | record entry => exact absurd rfl (hOther entry)
  | _ =>
    unfold Machine.fate at *
    split <;> simp_all

/-- A verdict over whose printing the shell does not crash. -/
theorem print_verdict {v : Verdict} {o : Output} {passes : Log.Record → Bool}
    {journal : List Log.Entry}
    (hSurvived : ∀ p ∈ v.prints o passes journal, m.fate format p ≠ .crashed) :
    ∃ written, m.print format v.exit.code {} (v.prints o passes journal) = v.ending o written := by
  have hReported : ∀ (e : Exit) (report : String),
      (∀ p ∈ Print.records passes journal ++ [.report report], m.fate format p ≠ .crashed) →
      ∃ written, m.print format e.code {} (Print.records passes journal ++ [.report report]) =
        { status := some e.code, journal := written, report } := by
    intro e report hAll
    obtain ⟨written, hLog⟩ := print_records e.code passes [.report report]
      (fun p hMem => hAll p (List.mem_append_left _ hMem)) {}
    have hWritten := fate_eq_written (p := .report report) nofun
      (hAll _ (List.mem_append_right _ List.mem_cons_self))
    refine ⟨written, hLog.trans ?_⟩
    rw [Machine.print, hWritten]
    simp [Machine.print, Ending.add]
  cases v with
  | done p =>
    unfold Verdict.prints at *
    dsimp only at *
    have hWritten := fate_eq_written (p := .payload (o.render p.document p.text)) nofun
      (hSurvived _ (List.mem_append_right _ List.mem_cons_self))
    obtain ⟨earlier, hEarlier⟩ := print_records p.exit.code passes
      (.payload (o.render p.document p.text) ::
        Print.records passes (journal.drop (journal.length - p.later)))
      (fun q hMem => hSurvived q (List.mem_append_left _ hMem)) {}
    obtain ⟨later, hLater⟩ := print_records p.exit.code passes []
      (fun q hMem => hSurvived q (List.mem_append_right _ (List.mem_cons_of_mem _ hMem)))
      ({ journal := earlier, output := o.render p.document p.text } : Ending)
    refine ⟨earlier ++ later, hEarlier.trans ?_⟩
    rw [Machine.print, hWritten]
    rw [List.append_nil] at hLater
    simpa [Machine.print, Ending.add, Verdict.ending] using hLater
  | failed e => exact hReported (Exit.ofError e) (errorReport o e) hSurvived
  | unconfigured e => exact hReported (loadExit e) (loadReport o e) hSurvived

/-- Where the shell crashes over something that it prints there is no status. -/
theorem status_print_of_crashed {prints : List Print}
    (hCrash : ∃ p ∈ prints, m.fate format p = .crashed) :
    ∀ {e : Ending}, e.status = none → (m.print format status e prints).status = none := by
  induction prints with
  | nil => exact absurd hCrash nofun
  | cons p rest ih =>
    intro e hNone
    have hLater : m.fate format p ≠ .crashed → ∃ q ∈ rest, m.fate format q = .crashed := by
      intro hSurvived
      obtain ⟨q, hMem, hCrashed⟩ := hCrash
      rcases List.mem_cons.mp hMem with rfl | hMem
      · exact absurd hCrashed hSurvived
      · exact ⟨q, hMem, hCrashed⟩
    rw [Machine.print]
    cases hFate : m.fate format p with
    | crashed => exact hNone
    | written =>
      have hAdded : (e.add p).status = none := by cases p <;> exact hNone
      exact ih (hLater (by rw [hFate]; decide)) hAdded
    | lost => exact ih (hLater (by rw [hFate]; decide)) hNone

end Printing

/-! ## Carrying out a command line -/

/-- Nothing makes the shell crash: the filter of the log can be read, and what is printed under it
is written, or lost without harm. -/
def Invocation.Survives (i : Invocation) (m : Machine) : Prop :=
  ∃ passes, (i.common.logSettings m.env).filter? m.filters = some passes ∧
    ∀ p ∈ i.prints m passes, m.fate (i.common.logSettings m.env).format p ≠ .crashed

/-- Where everything that is printed can be written, only the filter matters. -/
theorem survives_iff_of_takes {i : Invocation} {m : Machine} (hOutput : m.takesOutput = true)
    (hErrors : m.takesErrors = true) :
    i.Survives m ↔ ∃ passes, (i.common.logSettings m.env).filter? m.filters = some passes := by
  have hWritten : ∀ format p, m.fate format p ≠ .crashed := by
    intro format p
    cases p <;> simp [Machine.fate, hOutput, hErrors]
  exact ⟨fun ⟨passes, hFilter, _⟩ => ⟨passes, hFilter⟩,
    fun ⟨passes, hFilter⟩ => ⟨passes, hFilter, fun p _ => hWritten _ p⟩⟩

/-- A command line that is understood ends as it should if and only if nothing makes the shell
crash. If something does, there is no status. -/
theorem run_regular_iff (m : Machine) {words : List String} {i : Invocation}
    (hParsed : Invocation.parse m.env words = .ok i) :
    ((run m words).Regular i.common.output (i.reply? m) ↔ i.Survives m) ∧
    (¬ i.Survives m → (run m words).status = none) := by
  have hRun : run m words = i.perform m := by
    unfold run
    rw [hParsed]
  have hCrash : ¬ i.Survives m → (run m words).status = none := by
    intro hDead
    rw [hRun]
    unfold Invocation.perform
    dsimp only
    cases hFilter : (i.common.logSettings m.env).filter? m.filters with
    | none => rfl
    | some passes =>
      refine status_print_of_crashed ?_ rfl
      refine Classical.byContradiction fun hNone => hDead ⟨passes, hFilter, fun p hMem hFate => ?_⟩
      exact hNone ⟨p, hMem, hFate⟩
  refine ⟨⟨?_, ?_⟩, hCrash⟩
  · intro hRegular
    refine Classical.byContradiction fun hDead => ?_
    obtain ⟨code, -, hStatus⟩ := hRegular.status_mem
    rw [hCrash hDead] at hStatus
    cases hStatus
  · rintro ⟨passes, hFilter, hSurvived⟩
    obtain ⟨written, hEnding⟩ := print_verdict hSurvived
    rw [hRun]
    unfold Invocation.perform
    dsimp only
    rw [hFilter]
    exact (congrArg (·.Regular i.common.output (i.reply? m)) hEnding).mpr
      (regular_of_allowed (allowed_verdict i m) i.common.output written)

/-- A machine without files. -/
def bareMachine (env : Config.Environment) : Machine where
  files _ := .missing
  env := env
  filters := Log.Filter.library
  pid := 7
  origin := ⟨"run", "host"⟩
  stamp _ := ""

/-- A request with a command that is unknown, for a machine that reads line by line. -/
def unknownRequest : List String := ["--format", "jsonl", "notice", "open", "--code", "99"]

/-- Where no variable is set it is turned down, and says so on one line. -/
theorem unknown_request_ends_regularly :
    ∃ i, Invocation.parse (bareMachine fun _ => none).env unknownRequest = .ok i ∧
      (run (bareMachine fun _ => none) unknownRequest).Regular .jsonl
        (i.reply? (bareMachine fun _ => none)) ∧
      (run (bareMachine fun _ => none) unknownRequest).status = some 13 := by
  have hParsed : Invocation.parse (bareMachine fun _ => none).env unknownRequest =
      .ok ⟨{ output := .jsonl }, .notice 99 none none⟩ := rfl
  have hStatus : (run (bareMachine fun _ => none) unknownRequest).status = some 13 := by
    decide +kernel
  have hSurvives : (⟨{ output := .jsonl }, .notice 99 none none⟩ : Invocation).Survives
      (bareMachine fun _ => none) :=
    (survives_iff_of_takes rfl rfl).mpr
      (Log.Settings.filter?_of_level Log.Filter.readsLevels_library (Or.inr rfl))
  exact ⟨_, hParsed, (run_regular_iff _ hParsed).1.mpr hSurvives, hStatus⟩

/-- An environment in which the text of the filter cannot be cut where it is cut: its first
character is a blank, which is passed over but counted. -/
def tornEnvironment : Config.Environment :=
  fun name => if name = "RUST_LOG" then some " é=info" else none

/-- Not every command line that is understood ends as it should: there, the shell crashes when it is
asked for its version. -/
theorem run_may_crash :
    ¬ ∀ (m : Machine) (words : List String) (i : Invocation),
      Invocation.parse m.env words = .ok i →
        (run m words).Regular i.common.output (i.reply? m) := by
  intro hAll
  have hParsed : Invocation.parse (bareMachine tornEnvironment).env ["version"] =
      .ok ⟨{}, .version⟩ := rfl
  obtain ⟨code, -, hStatus⟩ :=
    (hAll (bareMachine tornEnvironment) ["version"] _ hParsed).status_mem
  have hCrashed : (run (bareMachine tornEnvironment) ["version"]).status = none := by
    decide +kernel
  rw [hCrashed] at hStatus
  cases hStatus

end Shell

end DevicePower
