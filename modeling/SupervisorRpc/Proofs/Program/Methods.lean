import SupervisorRpc.Proofs.Client.Run
import SupervisorRpc.Proofs.Program.Calls

/-! The ways of naming a method.  An attribute of the client makes the call of its name, unless it is a
known method that does not fit its parameters; `call` makes the call of its first parameter; and every
command of the command line stands for a known method that fits.  So all of them come to the same
call. -/

namespace SupervisorRpc

/-- Every action on a target stands for a known method, with as many parameters as it takes. -/
theorem Method.arity?_ofAction {action method : Text} {target : Option Text} {group : Bool}
    {params : List Text} (haction : action ∈ CommandLine.actions)
    (h : ofAction action target group = .ok (method, params)) :
    arity? method = some params.length := by
  have hknown : ∀ action ∈ CommandLine.actions,
      arity? (action ++ text "_all") = some 0 ∧ arity? (action ++ text "_group") = some 1 ∧
        arity? (action ++ text "_process") = some 1 := by
    decide +kernel
  obtain ⟨hall, hgroup, hprocess⟩ := hknown action haction
  rw [ofAction] at h
  split at h
  · split at h
    · cases h
      rfl
    · cases h
  · split at h
    · cases h
      exact hall
    · cases group <;> cases h
      · exact hprocess
      · exact hgroup

namespace CommandLine

open Options

/-- A command that the command line has. -/
def Command.Known : Command → Prop
  | action name _ _ => name ∈ actions
  | daemon name => name ∈ daemonCommands

theorem Command.Known.arity? {command : Command} (h : command.Known) {method : Text}
    {params : List Text} (hcall : command.call = .ok (method, params)) :
    Method.arity? method = some params.length := by
  cases command with
  | action name target group => exact Method.arity?_ofAction h hcall
  | daemon name =>
    have hdaemon : ∀ name ∈ daemonCommands, Method.arity? name = some 0 := by decide +kernel
    cases hcall
    exact hdaemon _ h

theorem mem_commands {name : Text} (h : commands.any (·.1 = name) = true) :
    name ∈ actions ∨ name ∈ daemonCommands := by
  obtain ⟨entry, hentry, hname⟩ := List.any_eq_true.mp h
  obtain rfl := of_decide_eq_true hname
  rcases List.mem_append.mp hentry with hentry | hentry
  · obtain ⟨action, haction, rfl⟩ := List.mem_map.mp hentry
    exact .inl haction
  · obtain ⟨command, hcommand, rfl⟩ := List.mem_map.mp hentry
    exact .inr hcommand

variable {rpcUrl : Text} {layout : Layout} {args : List Text}

theorem readCommand_known {name : Text} {command : Command} {extras : List Text}
    (h : readCommand rpcUrl layout name args = .ok (command, extras)) : command.Known := by
  unfold readCommand at h
  split at h
  · cases h
  next hlisted =>
  have hlisted := mem_commands (by simpa using hlisted)
  dsimp only at h
  split at h
  · cases h
  split at h
  · cases h
  split at h
  next haction =>
    cases h
    obtain ⟨action, hmem, hname⟩ := List.any_eq_true.mp haction
    obtain rfl := of_decide_eq_true hname
    exact hmem
  next haction =>
    cases h
    exact hlisted.resolve_left fun hmem => haction (any_actions hmem)

/-- A command line is read with no command, or with one that there is. -/
theorem read_known {i : Invocation} (h : read rpcUrl layout args = .ok i) {command : Command}
    (hcommand : i.command = some command) : command.Known := by
  unfold read at h
  split at h
  · cases h
  split at h
  · cases h
  dsimp only at h
  split at h
  · split at h
    · cases h
    next hread =>
    split at h
    · cases h
      cases hcommand
      exact readCommand_known hread
    · cases h
  · split at h
    · cases h
      cases hcommand
    · cases h

end CommandLine

namespace Client

/-- An attribute of the client that stands for a method: it begins with no underscore, and is neither the
endpoint nor `call`. -/
structure Attribute (name : Text) : Prop where
  visible : name.head? ≠ some (point '_')
  ne_call : name ≠ text "call"
  ne_endpoint : name ≠ text "endpoint"

/-- A known method is called on fewer or on more parameters than it takes. -/
def Misfit (name : Text) (params : List Param) : Prop :=
  ∃ arity, Method.arity? name = some arity ∧ params.length ≠ arity

/-- The act fails with a failure of types and does nothing. -/
def Rejects {α : Type} (x : Act Unit α) : Prop :=
  ∃ e, (x ()).result = .error e ∧ e.errorClass = .type ∧ (x ()).trace = []

variable (endpoint : Endpoint) (world : World) (clock : Clock) {name : Text} {params : List Param}

theorem dispatch_attribute (h : Attribute name) :
    dispatch endpoint world clock name params =
      match Method.arity? name with
      | some arity =>
        if params.length = arity then call endpoint world clock name params
        else Act.fail (.arity ⟨name, arity, params.length⟩)
      | none => call endpoint world clock name params := by
  unfold dispatch
  exact (if_neg h.visible).trans ((if_neg h.ne_endpoint).trans (if_neg h.ne_call))

theorem dispatch_misfit (h : Attribute name) (hmisfit : Misfit name params) :
    Rejects (dispatch endpoint world clock name params) := by
  obtain ⟨arity, harity, hlength⟩ := hmisfit
  rw [dispatch_attribute endpoint world clock h, harity]
  dsimp only
  rw [if_neg hlength]
  exact ⟨_, rfl, rfl, rfl⟩

theorem dispatch_fit (h : Attribute name) (hfit : ¬Misfit name params) :
    dispatch endpoint world clock name params = call endpoint world clock name params := by
  rw [dispatch_attribute endpoint world clock h]
  cases harity : Method.arity? name with
  | none => rfl
  | some arity =>
    have hlength : params.length = arity :=
      Decidable.byContradiction fun hne => hfit ⟨arity, harity, hne⟩
    dsimp only
    rw [if_pos hlength]

/-- A call at least begins and ends its span. -/
theorem not_rejects_call (name : Text) (params : List Param) :
    ¬Rejects (call endpoint world clock name params) := by
  rintro ⟨e, -, -, htrace⟩
  rw [call_eq, Act.span_run] at htrace
  cases htrace

theorem dispatch_rejects_iff (h : Attribute name) :
    Rejects (dispatch endpoint world clock name params) ↔ Misfit name params := by
  refine ⟨fun hrejects => Classical.byContradiction fun hfit => ?_,
    dispatch_misfit endpoint world clock h⟩
  rw [dispatch_fit endpoint world clock h hfit] at hrejects
  exact not_rejects_call endpoint world clock name params hrejects

theorem dispatch_call (name : Text) (params : List Param) :
    dispatch endpoint world clock "call" (.value (.string name) :: params) =
      call endpoint world clock name params := rfl

/-- The known methods are attributes of the client. -/
theorem attribute_of_arity? {arity : Nat} (h : Method.arity? name = some arity) : Attribute name := by
  obtain ⟨before, after, hcatalogue, -⟩ := List.lookup_eq_some_iff.mp h
  have hmem : (name, arity) ∈ Method.catalogue := by
    rw [hcatalogue]
    simp
  have hattributes : ∀ entry ∈ Method.catalogue, entry.1.head? ≠ some (point '_') ∧
      entry.1 ≠ text "call" ∧ entry.1 ≠ text "endpoint" := by
    decide +kernel
  obtain ⟨hvisible, hcall, hendpoint⟩ := hattributes _ hmem
  exact ⟨hvisible, hcall, hendpoint⟩

theorem dispatch_of_arity? (h : Method.arity? name = some params.length) :
    dispatch endpoint world clock name params = call endpoint world clock name params := by
  apply dispatch_fit endpoint world clock (attribute_of_arity? h)
  rintro ⟨arity, harity, hlength⟩
  exact hlength (Option.some.inj (h.symm.trans harity))

end Client

namespace Program

open CommandLine

theorem planInvocation_eq_call {config : Config} {layout : Options.Layout} {i : Invocation} {job : Job}
    (h : planInvocation config layout i = .call job) :
    ∃ command, i.command = some command ∧ command.call = .ok (job.method, job.params) := by
  unfold planInvocation at h
  dsimp only at h
  split at h
  · cases h
  split at h
  · cases h
  split at h
  · cases h
  split at h
  · cases h
  split at h
  · cases h
  · cases h
    exact ⟨_, ‹_›, ‹_›⟩

/-- The program plans only calls of known methods that fit. -/
theorem arity?_of_plan {env : Environment} {args : List Text} {job : Job}
    (h : plan env args = .call job) : Method.arity? job.method = some job.params.length := by
  rw [plan] at h
  split at h
  · cases h
  · cases h
  next hread =>
    obtain ⟨command, hcommand, hcall⟩ := planInvocation_eq_call h
    exact (read_known hread hcommand).arity? hcall

/-- All ways of naming a method agree.  An attribute that stands for a method fails with a failure of
types, and nothing done, exactly if it is a known method that does not fit its parameters; else it is
the call of its name.  `call` is the call of its first parameter.  Every action that stands for a method
stands for a known one, with as many parameters as it takes; and the call that the program makes is that
of the attribute. -/
theorem methods_agree (endpoint : Endpoint) (world : World) (clock : Clock) :
    (∀ name params, Client.Attribute name →
      (Client.Rejects (Client.dispatch endpoint world clock name params) ↔
        Client.Misfit name params) ∧
      (¬Client.Misfit name params → Client.dispatch endpoint world clock name params =
        Client.call endpoint world clock name params)) ∧
    (∀ name params,
      Client.dispatch endpoint world clock "call" (.value (.string name) :: params) =
        Client.call endpoint world clock name params) ∧
    (∀ action ∈ actions, ∀ target group method given,
      Method.ofAction action target group = .ok (method, given) →
        let params := given.map fun p => Param.value (.string p)
        Method.arity? method = some params.length ∧
        Client.dispatch endpoint world clock method params =
          Client.call endpoint world clock method params) ∧
    ∀ env args job (times : SystemClock), plan env args = .call job →
      let params := job.params.map fun p => Param.value (.string p)
      let dispatched := Client.dispatch job.endpoint world times job.method params ()
      Method.arity? job.method = some params.length ∧ job.act world times () = dispatched ∧
      (run env world args times).events =
        job.preparation ++ (job.setUp.2.events dispatched.trace).1 := by
  refine ⟨?_, ?_, ?_, ?_⟩
  · intro name params h
    exact ⟨Client.dispatch_rejects_iff endpoint world clock h,
      Client.dispatch_fit endpoint world clock h⟩
  · exact Client.dispatch_call endpoint world clock
  · intro action haction target group method given hmethod params
    have harity : Method.arity? method = some params.length := by
      rw [List.length_map]
      exact Method.arity?_ofAction haction hmethod
    exact ⟨harity, Client.dispatch_of_arity? endpoint world clock harity⟩
  · intro env args job times hplan params dispatched
    have harity : Method.arity? job.method = some params.length := by
      rw [List.length_map]
      exact arity?_of_plan hplan
    have hact : job.act world times () = dispatched := by
      have hcall := Client.dispatch_of_arity? job.endpoint world times harity
      exact (congrFun hcall ()).symm
    refine ⟨harity, hact, ?_⟩
    rw [run, hplan, Plan.run, Job.run_events, Job.events_eq, hact]

/-- The ways of stopping a group, and an attempt to stop one without its name. -/
theorem methods_agree_group :
    let endpoint : Endpoint := ⟨"/s", .unix "/s"⟩
    let world : World := ⟨none, none, [.data [0x7B, 0x7D, 0x0A]], none, none, 984⟩
    let web : Param := .value (.string "web")
    let call := Client.call endpoint world [] "stop_group" [web]
    Client.Rejects (Client.dispatch endpoint world [] "stop_group" []) ∧
      Client.dispatch endpoint world [] "stop_group" [web] = call ∧
      Client.dispatch endpoint world [] "call" [.value (.string "stop_group"), web] = call ∧
      ∃ job, plan ⟨"/h", some "/s", none, none, none, none⟩ ["stop", "web", "-g"] = .call job ∧
        job.act world [] () = call () := by
  intro endpoint world web call
  obtain ⟨hattribute, hcall, haction, hplan⟩ := methods_agree endpoint world []
  have hnamed : Client.Attribute "stop_group" := ⟨by decide, by decide, by decide⟩
  have hdispatch : Client.dispatch endpoint world [] "stop_group" [web] = call :=
    (haction "stop" (by decide) (some "web") true "stop_group" ["web"] rfl).2
  refine ⟨(hattribute "stop_group" [] hnamed).1.mpr ⟨1, rfl, by decide⟩, hdispatch,
    hcall "stop_group" [web], ?_⟩
  have hread : plan ⟨"/h", some "/s", none, none, none, none⟩ ["stop", "web", "-g"] =
      .call ⟨endpoint, "stop_group", ["web"], "gonit-api", none, 30⟩ := rfl
  refine ⟨_, hread, (hplan _ _ _ [] hread).2.1.trans ?_⟩
  exact congrFun hdispatch ()

end Program

end SupervisorRpc
