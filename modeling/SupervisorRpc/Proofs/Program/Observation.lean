import SupervisorRpc.Proofs.Program.Calls

/-! Observation has no part in what the program does.  The endpoint of telemetry, the name of the service
and the level of the log change what is set up before the call and which lines of the log are shown, and
nothing else. -/

namespace SupervisorRpc

/-- The event is of the network, a span or a measurement. -/
def Event.isConduct : Event → Bool
  | .activity (.log _ _ _) | .activity (.tracer _) => false
  | .activity _ => true
  | _ => false

/-- The event makes a provider or an instrument, or asks for a meter or a tracer. -/
def Event.isSetUp : Event → Bool
  | .activity (.tracer _) => true
  | .activity _ => false
  | _ => true

theorem Event.isConduct_of_isSetUp {e : Event} (h : e.isSetUp = true) : e.isConduct = false := by
  cases e with
  | activity a => cases a <;> first | rfl | cases h
  | _ => rfl

namespace Program

open Options CommandLine

/-- Two runs end in the same way, with the same output and the same complaint, and do the same to the
world, apart from what telemetry is set up with at their start. -/
structure SameConduct (r r' : Run) : Prop where
  ending : r.ending = r'.ending
  out : r.out = r'.out
  err : r.err = r'.err
  conduct : r.trace.filter Event.isConduct = r'.trace.filter Event.isConduct
  trace : ∃ setUp setUp' rest, (∀ e ∈ setUp ++ setUp', e.isSetUp = true) ∧
    r.trace = setUp ++ rest ∧ r'.trace = setUp' ++ rest

theorem SameConduct.refl (r : Run) : SameConduct r r :=
  ⟨rfl, rfl, rfl, rfl, [], [], r.trace, by simp, rfl, rfl⟩

theorem filter_isConduct_setUp {setUp rest : List Event} (h : ∀ e ∈ setUp, e.isSetUp = true) :
    (setUp ++ rest).filter Event.isConduct = rest.filter Event.isConduct := by
  have hnone : setUp.filter Event.isConduct = [] := by
    rw [List.filter_eq_nil_iff]
    intro e he
    simp [Event.isConduct_of_isSetUp (h e he)]
  rw [List.filter_append, hnone, List.nil_append]

/-- Two plans are for the same call, or the same. -/
inductive Plan.Alike : Plan → Plan → Prop
  | refl (p : Plan) : Alike p p
  | call {job job' : Job} (endpoint : job.endpoint = job'.endpoint) (method : job.method = job'.method)
      (params : job.params = job'.params) : Alike (.call job) (.call job')

variable (job : Job) (world : World) (clock : SystemClock)

theorem Job.isSetUp_setUp : ∀ e ∈ job.setUp.1.filter (·.logLine?.isNone), e.isSetUp = true := by
  rw [setUp]
  cases job.telemetry with
  | none => simp
  | some endpoint =>
    simp [Telemetry.setupTracer, Telemetry.setupMetrics, Telemetry.configured, Event.logLine?,
      Event.isSetUp]

/-- The call of a job starts without instruments, whether telemetry was set up for it or not. -/
theorem Job.setUp_instruments : job.setUp.2 = Instruments.empty := by
  rw [setUp]
  cases job.telemetry <;> rfl

theorem Job.trace_eq : (job.run world clock).trace =
    job.setUp.1.filter (·.logLine?.isNone) ++
      (Instruments.empty.events (job.act world clock ()).trace).1.filter (·.logLine?.isNone) := by
  have hcreated : (Event.activity (Client.created job.endpoint)).logLine?.isNone = false := rfl
  have hcalling : (Event.activity job.calling).logLine?.isNone = false := rfl
  rw [Run.trace, Job.run_events, Job.events_eq, Job.setUp_instruments, List.filter_append,
    preparation]
  simp [hcreated, hcalling]

theorem Job.run_sameConduct {job job' : Job} (hendpoint : job.endpoint = job'.endpoint)
    (hmethod : job.method = job'.method) (hparams : job.params = job'.params) (world : World)
    (clock : SystemClock) :
    SameConduct (job.run world clock) (job'.run world clock) := by
  have hact : job.act world clock = job'.act world clock := by
    rw [act, act, hendpoint, hmethod, hparams]
  have hcomplaint : job.complaint? = job'.complaint? := by
    funext e
    unfold complaint?
    rw [hendpoint]
  have hended : (job.run world clock).ending = (job'.run world clock).ending ∧
      (job.run world clock).out = (job'.run world clock).out ∧
      (job.run world clock).err = (job'.run world clock).err := by
    rw [run, run, hact, hcomplaint]
    cases (job'.act world clock ()).result with
    | ok value => exact ⟨rfl, rfl, rfl⟩
    | error e =>
      dsimp only
      cases job'.complaint? e <;> exact ⟨rfl, rfl, rfl⟩
  obtain ⟨hending, hout, herr⟩ := hended
  -- What is set up for telemetry differs; the call behind it is the same, from no instruments on.
  have hsetUp := job.isSetUp_setUp
  have hsetUp' := job'.isSetUp_setUp
  have htrace := job.trace_eq world clock
  have htrace' := job'.trace_eq world clock
  rw [← hact] at htrace'
  refine ⟨hending, hout, herr, ?_, _, _, _, ?_, htrace, htrace'⟩
  · rw [htrace, htrace', filter_isConduct_setUp hsetUp, filter_isConduct_setUp hsetUp']
  · intro e he
    exact (List.mem_append.mp he).elim (hsetUp e) (hsetUp' e)

theorem Plan.Alike.run {p p' : Plan} (h : p.Alike p') (world : World) (clock : SystemClock) :
    SameConduct (Plan.run world clock p) (Plan.run world clock p') := by
  cases h with
  | refl => exact .refl _
  | call hendpoint hmethod hparams => exact Job.run_sameConduct hendpoint hmethod hparams world clock

/-- The plan for an invocation depends on the threshold of the log only for whether there is one, and on
the endpoint of telemetry and the service not at all. -/
theorem planInvocation_alike {config config' : Config} (layout : Layout) {i i' : Invocation}
    (hdefault : config.rpcUrl = config'.rpcUrl) (hurl : i.rpcUrl = i'.rpcUrl)
    (hcommand : i.command = i'.command)
    (hlevel : (if i.verbose then some Level.debug.weight
      else Log.threshold? config.logLevel).isSome = true)
    (hlevel' : (if i'.verbose then some Level.debug.weight
      else Log.threshold? config'.logLevel).isSome = true) :
    (planInvocation config layout i).Alike (planInvocation config' layout i') := by
  obtain ⟨threshold, hthreshold⟩ := Option.isSome_iff_exists.mp hlevel
  obtain ⟨threshold', hthreshold'⟩ := Option.isSome_iff_exists.mp hlevel'
  rw [planInvocation, planInvocation, hthreshold, hthreshold', hdefault, hurl, hcommand]
  dsimp only
  repeat' split
  all_goals first | exact .refl _ | exact .call rfl rfl rfl

/-- The level of the log is not given, or it is the name of a threshold. -/
def Known (level : Option Text) : Prop :=
  ∀ name, level = some name → (Log.threshold? (Text.upper name)).isSome = true

/-- The environment with other settings for telemetry and the log. -/
def observed (env : Environment) (otlpEndpoint serviceName logLevel : Option Text) : Environment :=
  { env with otlpEndpoint, serviceName, logLevel }

/-- Whatever the arguments and the world are, the program does the same for every endpoint of telemetry,
name of the service and level of the log in the environment, and with a flag for more of the log in front
of the arguments. -/
theorem run_unobserved (env : Environment) (otlpEndpoint serviceName logLevel : Option Text)
    (world : World) (args : List Text) (clock : SystemClock) (hlevel : Known env.logLevel)
    (hlevel' : Known logLevel) :
    SameConduct (run env world args clock)
        (run (observed env otlpEndpoint serviceName logLevel) world args clock) ∧
      SameConduct (run env world args clock) (run env world ("-v" :: args) clock) := by
  have hthreshold := threshold?_isSome hlevel
  constructor
  · let env' := observed env otlpEndpoint serviceName logLevel
    have hknown : Known env'.logLevel := hlevel'
    -- The reading of the arguments depends on the URL and the width of the terminal alone.
    have hread : read (Config.ofEnvironment env').rpcUrl (Layout.ofColumns (columns env'.columns))
        args = read (Config.ofEnvironment env).rpcUrl (Layout.ofColumns (columns env.columns)) args :=
      rfl
    apply Plan.Alike.run
    rw [plan, plan, hread]
    cases read (Config.ofEnvironment env).rpcUrl (Layout.ofColumns (columns env.columns)) args with
    | error notice => cases notice <;> exact .refl _
    | ok i =>
      exact planInvocation_alike _ rfl rfl rfl (hthreshold i.verbose)
        (threshold?_isSome hknown i.verbose)
  · have hread := read_verbose (Config.ofEnvironment env).rpcUrl
      (Layout.ofColumns (columns env.columns)) false args
    have hword : (if false then text "--verbose" else text "-v") = text "-v" := rfl
    rw [hword] at hread
    apply Plan.Alike.run
    rw [plan, plan, hread]
    cases read (Config.ofEnvironment env).rpcUrl (Layout.ofColumns (columns env.columns)) args with
    | error notice => cases notice <;> exact .refl _
    | ok i => exact planInvocation_alike _ rfl rfl rfl (hthreshold i.verbose) rfl

/-- A command to a daemon that refuses connections, with telemetry and a level of the log and without. -/
theorem run_unobserved_refused :
    let env : Environment := ⟨"/h", none, some "warn", some "o:1", none, none⟩
    let world : World := ⟨some ⟨.connectionRefused, .none⟩, none, [], none, none, 984⟩
    let clock : SystemClock := [3.25]
    Known env.logLevel ∧
      SameConduct (run env world ["about"] clock)
        (run (observed env none (some "cli") none) world ["about"] clock) ∧
      SameConduct (run env world ["about"] clock) (run env world ["-v", "about"] clock) := by
  intro env world clock
  have hlevel : Known env.logLevel := by
    rintro name ⟨⟩
    decide +kernel
  have hlevel' : Known none := by
    rintro name ⟨⟩
  exact ⟨hlevel, run_unobserved env none (some "cli") none world ["about"] clock hlevel hlevel'⟩

end Program

end SupervisorRpc
