import SupervisorRpc.Proofs.Client.Request
import SupervisorRpc.Proofs.Program.Calls

/-! How the program ends.  Either it ends before anything is done to the world, with a usage message or
a help text, or it has made one call, and the ending of that call tells the exit code and what is
written.  A failure leaves nothing on the output. -/

namespace SupervisorRpc

namespace CommandLine

open Options

/-- A notice of the program or of one of its commands. -/
inductive Notice.Proper (rpcUrl : Text) (layout : Layout) : Notice → Prop
  | refusal (e : UsageError) : Proper rpcUrl layout (.refusal (CommandLine.refusal rpcUrl layout e))
  | help : Proper rpcUrl layout (.help (CommandLine.help rpcUrl layout))
  | commandRefusal (command : Text) (e : UsageError) :
      Proper rpcUrl layout (.refusal ((commandGrammar command).refusal layout e))
  | commandHelp (command : Text) :
      Proper rpcUrl layout (.help ((commandGrammar command).help layout [] []))

variable {rpcUrl : Text} {layout : Layout} {notice : Notice}

theorem readCommand_error {name : Text} {args : List Text}
    (h : readCommand rpcUrl layout name args = .error notice) : notice.Proper rpcUrl layout := by
  unfold readCommand at h
  split at h
  · cases h
    exact .refusal _
  · dsimp only at h
    split at h
    · cases h
      exact .commandRefusal name _
    · split at h
      · cases h
        exact .commandHelp name
      · split at h <;> cases h

theorem read_error {args : List Text} (h : read rpcUrl layout args = .error notice) :
    notice.Proper rpcUrl layout := by
  unfold read at h
  split at h
  · cases h
    exact .refusal _
  · split at h
    · cases h
      exact .help
    · dsimp only at h
      split at h
      · split at h
        · rename_i hcommand
          cases h
          exact readCommand_error hcommand
        · split at h
          · cases h
          · cases h
            exact .refusal _
      · split at h
        · cases h
        · cases h
          exact .refusal _

end CommandLine

namespace Program

open Options CommandLine

/-- Without a call a plan ends in a refusal, or in the help where there is no command. -/
theorem planInvocation_finish {config : Config} {layout : Layout} {i : Invocation} {code : Nat}
    {out err : Text} (h : planInvocation config layout i = .finish code out err) :
    (∃ e, code = 2 ∧ out = [] ∧ err = CommandLine.refusal config.rpcUrl layout e) ∨
      (i.command = none ∧ code = 1 ∧ out = CommandLine.help config.rpcUrl layout ∧ err = []) := by
  unfold planInvocation at h
  dsimp only at h
  split at h
  · cases h
  split at h
  · cases h
    exact .inr ⟨‹_›, rfl, rfl, rfl⟩
  split at h
  · cases h
    exact .inl ⟨_, rfl, rfl, rfl⟩
  split at h
  · cases h
  split at h
  · cases h
    exact .inl ⟨_, rfl, rfl, rfl⟩
  · cases h

/-- A run of some arguments that ends without a call, before anything is done to the world. -/
inductive Idle (rpcUrl : Text) (layout : Layout) (args : List Text) : Run → Prop
  /-- A usage error. -/
  | refused {shown : Text} (h : (Notice.refusal shown).Proper rpcUrl layout) :
      Idle rpcUrl layout args ⟨.ok 2, [], [], shown, []⟩
  /-- A request for help. -/
  | helped {shown : Text} (hread : read rpcUrl layout args = .error (.help shown))
      (h : (Notice.help shown).Proper rpcUrl layout) :
      Idle rpcUrl layout args ⟨.ok 0, shown, [], [], []⟩
  /-- A command line without a command. -/
  | commandless {i : Invocation} (hread : read rpcUrl layout args = .ok i)
      (h : i.command = none) :
      Idle rpcUrl layout args ⟨.ok 1, CommandLine.help rpcUrl layout, [], [], []⟩

/-- A run that ends as the call of its job does. -/
inductive Concluded (job : Job) (world : World) (clock : SystemClock) (r : Run) : Prop
  | returned {value : Json} (hresult : (job.act world clock ()).result = .ok value)
      (hcode : r.ending = .ok 0) (hsent : r.trace.countP (Event.holds Activity.isSend) = 1)
      (hout : r.out = Json.indented value ++ text "\n")
  | rpcError {e : RpcError} (hresult : (job.act world clock ()).result = .error (.rpc e))
      (hcode : r.ending = .ok 1) (hout : r.out = [])
      (herr : ∀ time, (text "Error: " ++ e.message ++ text "\n") <:+ r.errorOutput time)
  | osError {e : Failure} (hresult : (job.act world clock ()).result = .error e) (hos : e.isOS = true)
      (hcode : r.ending = .ok 1) (hout : r.out = [])
      (herr : ∀ time, (text "Failed to connect to gonit daemon at " ++ job.endpoint.label ++
        text ": " ++ e.message ++ text "\n") <:+ r.errorOutput time)

variable {job : Job} {world : World} {clock : SystemClock}

theorem Idle.events_eq {rpcUrl : Text} {layout : Layout} {args : List Text} {r : Run}
    (h : Idle rpcUrl layout args r) : r.events = [] := by
  cases h <;> rfl

theorem run_of_plan {env : Environment} {args : List Text} {p : Plan} (h : plan env args = p)
    (world : World) (clock : SystemClock) : run env world args clock = p.run world clock := by
  rw [run, h]

theorem run_idle {env : Environment} {args : List Text} {code : Nat} {out err : Text}
    (h : plan env args = .finish code out err) (world : World)
    (clock : SystemClock) :
    Idle (Config.ofEnvironment env).rpcUrl (Layout.ofColumns (columns env.columns)) args
      (run env world args clock) := by
  rw [run_of_plan h, Plan.run]
  rw [plan] at h
  split at h
  · rename_i hread
    cases h
    exact .helped hread (read_error hread)
  · rename_i hread
    cases h
    exact .refused (read_error hread)
  · rename_i hread
    rcases planInvocation_finish h with ⟨e, rfl, rfl, rfl⟩ | ⟨hnone, rfl, rfl, rfl⟩
    · exact .refused (.refusal e)
    · exact .commandless hread hnone

theorem Job.complaint?_eq_some {e : Failure} {complaint : Text}
    (h : job.complaint? e = some complaint) :
    (∃ r, e = .rpc r ∧ complaint = text "Error: " ++ r.message ++ text "\n") ∨
      (e.isOS = true ∧ complaint = text "Failed to connect to gonit daemon at " ++
        job.endpoint.label ++ text ": " ++ e.message ++ text "\n") := by
  unfold complaint? at h
  split at h
  · cases h
    exact .inl ⟨_, rfl, rfl⟩
  · split at h
    · cases h
      exact .inr ⟨‹_›, rfl⟩
    · cases h

/-! ### Counting activities -/

section Counting

variable {p : Activity → Bool} (hlog : ∀ level logger message, p (.log level logger message) = false)

include hlog

/-- Leaving the log lines out loses no other activities. -/
theorem Run.countP_trace (r : Run) :
    r.trace.countP (Event.holds p) = r.events.countP (Event.holds p) := by
  rw [Run.trace, List.countP_filter]
  apply List.countP_congr
  intro e _
  cases e with
  | activity a =>
    cases a with
    | log level logger message => simp [Event.holds, hlog]
    | _ => simp [Event.logLine?]
  | _ => simp [Event.holds]

/-- Before its call a job only writes the log, asks for a tracer and sets up telemetry. -/
theorem Job.countP_events (htracer : ∀ name, p (.tracer name) = false) (job : Job) (world : World)
    (clock : SystemClock) :
    (job.events world clock).countP (Event.holds p) = (job.act world clock ()).trace.countP p := by
  have hnone : job.preparation.countP (Event.holds p) = 0 := by
    rw [preparation, setUp]
    cases job.telemetry <;>
      simp [Telemetry.setupTracer, Telemetry.setupMetrics, Telemetry.configured, Event.holds,
        Client.created, Job.calling, hlog, htracer]
  rw [job.events_eq, List.countP_append, hnone, Nat.zero_add, Instruments.events_countP]

theorem Job.countP_trace (htracer : ∀ name, p (.tracer name) = false) (job : Job) (world : World)
    (clock : SystemClock) :
    (job.run world clock).trace.countP (Event.holds p) = (job.act world clock ()).trace.countP p := by
  rw [Run.countP_trace hlog, Job.run_events, Job.countP_events hlog htracer]

end Counting

theorem Job.run_concluded {code : Nat} (h : (job.run world clock).ending = .ok code) :
    Concluded job world clock (job.run world clock) := by
  cases hresult : (job.act world clock ()).result with
  | ok value =>
    have hrun : job.run world clock = ⟨.ok 0, Json.indented value ++ text "\n",
        Log.shown job.threshold (job.events world clock), [], job.events world clock⟩ := by
      rw [run, hresult]
    have hsent : (job.run world clock).trace.countP (Event.holds Activity.isSend) = 1 := by
      rw [Job.countP_trace (fun _ _ _ => rfl) fun _ => rfl]
      exact Client.call_isSend_of_ok hresult
    rw [hrun] at hsent ⊢
    exact .returned hresult rfl hsent rfl
  | error e =>
    cases hcomplaint : job.complaint? e with
    | none =>
      have hending : (job.run world clock).ending = .error e := by
        rw [run, hresult]
        simp only [hcomplaint]
      rw [hending] at h
      cases h
    | some complaint =>
      have hrun : job.run world clock = ⟨.ok 1, [], Log.shown job.threshold (job.events world clock),
          complaint, job.events world clock⟩ := by
        rw [run, hresult]
        simp only [hcomplaint]
      rw [hrun]
      rcases Job.complaint?_eq_some hcomplaint with ⟨r, rfl, rfl⟩ | ⟨hos, rfl⟩
      · exact .rpcError hresult rfl rfl fun time => List.suffix_append _ _
      · exact .osError hresult hos rfl rfl fun time => List.suffix_append _ _

/-- A run that ends with an exit code has either done nothing to the world, because of a usage error,
a request for help or a missing command, or it has made one call and ends as that call does. -/
theorem run_ending (env : Environment) (world : World) (args : List Text) (clock : SystemClock)
    {code : Nat} (h : (run env world args clock).ending = .ok code) :
    let r := run env world args clock
    let idle := Idle (Config.ofEnvironment env).rpcUrl (Layout.ofColumns (columns env.columns)) args r
    let called := ∃ job, plan env args = .call job ∧
      r.trace.countP (Event.holds Activity.isSpanStart) = 1 ∧ Concluded job world clock r
    (idle ∨ called) ∧ ¬(idle ∧ called) := by
  intro r idle called
  constructor
  · cases hplan : plan env args with
    | finish _ out err => exact .inl (run_idle hplan world clock)
    | breakOff e =>
      rw [run_of_plan hplan] at h
      cases h
    | call job =>
      have hr : r = job.run world clock := run_of_plan hplan world clock
      refine .inr ⟨job, hplan, ?_, ?_⟩
      · rw [hr, Job.countP_trace (fun _ _ _ => rfl) fun _ => rfl]
        exact Client.call_isSpanStart ..
      · rw [run_of_plan hplan] at h
        rw [hr]
        exact Job.run_concluded h
  · rintro ⟨hidle, job, -, hspan, -⟩
    have hempty : r.trace = [] := by
      rw [Run.trace, hidle.events_eq]
      rfl
    rw [hempty] at hspan
    cases hspan

/-- A command to a daemon that refuses connections. -/
theorem run_ending_refused :
    let env : Environment := ⟨"/h", none, none, none, none, none⟩
    let world : World := ⟨some ⟨.connectionRefused, .none⟩, none, [], none, none, 984⟩
    let clock : SystemClock := [3.25]
    let r := run env world ["-v", "about"] clock
    r.ending = .ok 1 ∧ ∃ job, plan env ["-v", "about"] = .call job ∧
      r.trace.countP (Event.holds Activity.isSpanStart) = 1 ∧ Concluded job world clock r := by
  intro env world clock r
  have hcode : r.ending = .ok 1 := rfl
  refine ⟨hcode, ?_⟩
  rcases (run_ending env world ["-v", "about"] clock hcode).1 with hidle | hcalled
  · have hevents : r.events ≠ [] := List.cons_ne_nil _ _
    exact absurd hidle.events_eq hevents
  · exact hcalled

end Program

end SupervisorRpc
