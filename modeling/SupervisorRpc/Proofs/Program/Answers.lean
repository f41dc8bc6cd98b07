import SupervisorRpc.Proofs.Client.Closing
import SupervisorRpc.Proofs.Client.Reply
import SupervisorRpc.Proofs.Program.Endings
import SupervisorRpc.Proofs.Program.Observation

/-! What becomes of the daemon's answer.  Whatever bytes arrive in whatever chunks, and whatever faults of
the operating system, a command line that is in order ends with its result or with a complaint, but for
one kind of answer: one with too much nesting to be read breaks the program off. -/

namespace SupervisorRpc

namespace Json

/-- More opening brackets than there may be arrays inside one another. -/
theorem parseValue_brackets (depth : Nat) (rest : Text) :
    parseValue depth (List.replicate (depth + 1) (point '[') ++ rest) = .error (.depth .array) := by
  have hquote : point '[' ≠ point '"' := by decide
  have hclose : point '[' ≠ point ']' := by decide
  -- The first item of an array is read at one depth less, and its failure is that of the array.
  induction depth with
  | zero => rfl
  | succ depth ih =>
    rw [List.replicate_succ, List.cons_append, parseValue, if_neg hquote, if_pos rfl]
    rw [List.replicate_succ, List.cons_append] at ih ⊢
    rw [arrayBody, skipBlanks_cons (by decide)]
    dsimp only
    rw [if_neg hclose, itemsFrom, ih]
    rfl

theorem decode_brackets {limit n : Nat} (h : limit < n) :
    decode (List.replicate n (point '[')) limit = .error (.depth .array) := by
  obtain ⟨more, rfl⟩ := Nat.exists_eq_add_of_le h
  have hread := parseValue_brackets limit (List.replicate more (point '['))
  rw [List.replicate_add]
  rw [List.replicate_succ, List.cons_append] at hread ⊢
  have hmark : some (point '[') ≠ some byteOrderMark := by decide
  rw [decode, List.head?_cons, if_neg hmark, skipBlanks_cons (by decide), hread]

end Json

/-- A line of opening brackets, as bytes. -/
theorem Response.decode_brackets {limit n : Nat} (h : limit < n) :
    decode limit (Utf8.encode (List.replicate n (point '['))) = .error (.json (.depth .array)) := by
  have hplain : ∀ c ∈ List.replicate n (point '['), c.isSurrogate = false := by
    intro c hc
    rw [List.eq_of_mem_replicate hc]
    decide
  simp only [decode, Utf8.decode_encode hplain, Json.decode_brackets h]

/-- Brackets at the end of a line are no carriage returns. -/
theorem Utf8.stripReturns_brackets (n : Nat) :
    stripReturns (encode (List.replicate n (point '['))) = encode (List.replicate n (point '[')) := by
  cases n with
  | zero => rfl
  | succ n =>
    rw [List.replicate_succ']
    exact stripReturns_encode_append (by decide) _

namespace World

/-- All faults of the world are failures of the operating system. -/
structure OSFaults (w : World) : Prop where
  connect : ∀ f ∈ w.connectFault, f.isOS = true
  send : ∀ f ∈ w.sendFault, f.isOS = true
  incoming : ∀ f, .fault f ∈ w.incoming → f.isOS = true
  reader : ∀ f ∈ w.readerFault, f.isOS = true
  socket : ∀ f ∈ w.socketFault, f.isOS = true

variable {w : World}

theorem OSFaults.calm_closable (h : w.OSFaults) : w.closable.Calm :=
  ⟨h.connect, h.send, h.incoming, rfl, rfl⟩

theorem OSFaults.isOS_closingFault? (h : w.OSFaults) {e : Endpoint} {f : Fault}
    (hf : e.closingFault? w = some f) : f.isOS = true := by
  rw [Endpoint.closingFault?] at hf
  split at hf
  · rcases Option.or_eq_some_iff.mp hf with hsocket | ⟨-, hreader⟩
    · exact h.socket f hsocket
    · exact h.reader f hreader
  · split at hf
    · exact h.socket f hf
    · cases hf

end World

namespace Client

variable {endpoint : Endpoint} {world : World}

/-- Texts have no part in what is received. -/
theorem received_texts (world : World) (texts : List Text) :
    received world (texts.map fun t => .value (.string t)) = received world [] := by
  have hfits : ∀ v ∈ texts.map Json.string, v.excess? world.room = none := by simp [Json.excess?]
  have hwritable : (texts.map fun t => Param.value (.string t)).mapM (Param.writable world.room) =
      .ok (texts.map Json.string) := by
    have hvalues := mapM_writable_values hfits
    rwa [List.map_map] at hvalues
  rw [received, hwritable]
  rfl

theorem isOS_of_received {e : Failure} (hcalm : world.Calm) (h : received world [] = .error e) :
    e.isOS = true := by
  rcases received_error_cases h with ⟨f, hconnect, rfl⟩ | hvalues | ⟨f, hsend, rfl⟩ | hanswer
  · rw [Fault.isOS_failure]
    exact hcalm.connect f hconnect
  · cases hvalues
  · rw [Fault.isOS_failure]
    exact hcalm.send f hsend
  · exact hcalm.isOS_of_unread hanswer

/-- The line that the daemon answers with has too much nesting to be read, and closing raises nothing. -/
def TooDeep (endpoint : Endpoint) (world : World) (nesting : Json.Nesting) : Prop :=
  endpoint.closingFault? world = none ∧ ∃ line, received world [] = .ok line ∧
    Response.decode world.limit line = .error (.json (.depth nesting))

/-- Where closing raises no fault, a call about texts ends with the failure to receive a line, or as the
line is read. -/
theorem call_texts (hclosing : endpoint.closingFault? world = none) (clock : SystemClock)
    (name : Text) (texts : List Text) :
    (call endpoint world clock name (texts.map fun t => .value (.string t)) ()).result =
      received world [] >>= fun line =>
        (Response.read world.limit (Method.wireName name) line ()).result := by
  -- Faults of closing have no part in what is received.
  have hreceived : received world.closable (texts.map fun t => .value (.string t)) =
      received world [] := received_texts world texts
  rw [call_of_closable hclosing, concluded, hreceived]
  rfl

theorem call_of_tooDeep {nesting : Json.Nesting} (h : TooDeep endpoint world nesting)
    (clock : SystemClock) (name : Text) (texts : List Text) :
    (call endpoint world clock name (texts.map fun t => .value (.string t)) ()).result =
      .error (.tooDeep nesting) := by
  obtain ⟨hclosing, line, hreceived, hdecode⟩ := h
  have hread : (Response.read world.limit (Method.wireName name) line ()).result =
      .error (.tooDeep nesting) := by
    rw [Response.read, hdecode]
    rfl
  rw [call_texts hclosing, hreceived]
  exact hread

/-- The ways in which a call ends where all faults are failures of the operating system. -/
inductive Answered (endpoint : Endpoint) (world : World) : Except Failure Json → Prop
  | returned (value : Json) : Answered endpoint world (.ok value)
  | rpcError (e : RpcError) : Answered endpoint world (.error (.rpc e))
  | osError {e : Failure} (h : e.isOS = true) : Answered endpoint world (.error e)
  | tooDeep {nesting : Json.Nesting} (h : TooDeep endpoint world nesting) :
      Answered endpoint world (.error (.tooDeep nesting))

theorem call_answered (hfaults : world.OSFaults) (endpoint : Endpoint) (clock : SystemClock)
    (name : Text) (texts : List Text) :
    Answered endpoint world
      (call endpoint world clock name (texts.map fun t => .value (.string t)) ()).result := by
  cases hclosing : endpoint.closingFault? world with
  | some f =>
    rw [call_of_closingFault hclosing]
    apply Answered.osError
    rw [Fault.isOS_failure]
    exact hfaults.isOS_closingFault? hclosing
  | none =>
    rw [call_texts hclosing]
    cases hreceived : received world [] with
    | error e => exact .osError (isOS_of_received hfaults.calm_closable hreceived)
    | ok line =>
      obtain ⟨ended, trace, hreading, hrun⟩ :=
        Response.reading_run world.limit (Method.wireName name) line
      show Answered endpoint world (Response.read world.limit (Method.wireName name) line ()).result
      rw [hrun Unit ()]
      cases hreading with
      | tooDeep hdecode => exact .tooDeep ⟨hclosing, line, hreceived, hdecode⟩
      | accepted => exact .returned _
      | unreadable | reported | notObject => exact .rpcError _

end Client

namespace Program

open Options CommandLine

theorem Job.ending_eq (job : Job) (world : World) (clock : SystemClock) :
    (job.run world clock).ending =
    match (job.act world clock ()).result with
    | .ok _ => .ok 0
    | .error e => if (job.complaint? e).isSome then .ok 1 else .error e := by
  rw [run]
  cases (job.act world clock ()).result with
  | ok value => rfl
  | error e =>
    dsimp only
    cases job.complaint? e <;> rfl

theorem Job.complaint?_of_isOS (job : Job) {e : Failure} (h : e.isOS = true) :
    (job.complaint? e).isSome = true := by
  unfold complaint?
  cases e with
  | rpc e => rfl
  | _ =>
    dsimp only
    rw [if_pos h]
    rfl

/-- A command line that is in order: it is read, its command stands for a method, its URL is that of an
endpoint, and the environment has a level of the log that is known. -/
structure Accepted (env : Environment) (args : List Text) where
  invocation : Invocation
  command : Command
  method : Text
  params : List Text
  url : Text
  endpoint : Endpoint
  read_eq : read (Config.ofEnvironment env).rpcUrl (Layout.ofColumns (columns env.columns)) args =
    .ok invocation
  command_eq : invocation.command = some command
  call_eq : command.call = .ok (method, params)
  url_eq : invocation.rpcUrl.getD (some (Config.ofEnvironment env).rpcUrl) = some url
  endpoint_eq : Endpoint.parse env.home (some url) = .ok endpoint
  known : Known env.logLevel

variable {env : Environment} {args : List Text}

theorem Accepted.plan_eq (l : Accepted env args) :
    ∃ job, plan env args = .call job ∧ job.endpoint = l.endpoint := by
  obtain ⟨threshold, hthreshold⟩ :=
    Option.isSome_iff_exists.mp (threshold?_isSome l.known l.invocation.verbose)
  obtain ⟨address, haddress, hendpoint⟩ := Endpoint.addressOf_of_parse l.endpoint_eq
  have hplan : plan env args = planInvocation (Config.ofEnvironment env)
      (Layout.ofColumns (columns env.columns)) l.invocation := by
    rw [plan, l.read_eq]
  have hcall := planInvocation_call (Layout.ofColumns (columns env.columns)) hthreshold
    l.command_eq l.call_eq l.url_eq haddress
  exact ⟨_, hplan.trans hcall, hendpoint⟩

theorem Job.ending_of_tooDeep {job : Job} {world : World} {nesting : Json.Nesting}
    (h : Client.TooDeep job.endpoint world nesting) (clock : SystemClock) :
    (job.run world clock).ending = .error (.tooDeep nesting) := by
  rw [Job.ending_eq, act, Client.call_of_tooDeep h]
  rfl

/-- Where all faults are failures of the operating system, a job ends with an exit code unless the answer
has too much nesting. -/
theorem Job.ending_cases (job : Job) {world : World} (hfaults : world.OSFaults)
    (clock : SystemClock) :
    ((job.run world clock).ending = .ok 0 ∨ (job.run world clock).ending = .ok 1) ∨
      ∃ nesting, Client.TooDeep job.endpoint world nesting := by
  have hanswered : Client.Answered job.endpoint world (job.act world clock ()).result :=
    Client.call_answered hfaults job.endpoint clock job.method job.params
  rw [job.ending_eq]
  generalize (job.act world clock ()).result = ended at hanswered
  cases hanswered with
  | returned => exact .inl (.inl rfl)
  | rpcError => exact .inl (.inr rfl)
  | osError hos => exact .inl (.inr (if_pos (job.complaint?_of_isOS hos)))
  | tooDeep hdeep => exact .inr ⟨_, hdeep⟩

/-- Where all faults are failures of the operating system, a command line that is in order ends with code
0 and the result, or with code 1 and a complaint, unless the daemon answers with too much nesting and
closing raises nothing; exactly then the program breaks off. -/
theorem run_answered (l : Accepted env args) {world : World} (hfaults : world.OSFaults)
    (clock : SystemClock) :
    let r := run env world args clock
    (∀ nesting, r.ending = .error (.tooDeep nesting) ↔ Client.TooDeep l.endpoint world nesting) ∧
      ((∀ nesting, ¬Client.TooDeep l.endpoint world nesting) →
        (r.ending = .ok 0 ∨ r.ending = .ok 1) ∧
          ∃ job, plan env args = .call job ∧ job.endpoint = l.endpoint ∧
            Concluded job world clock r) := by
  intro r
  obtain ⟨job, hplan, hendpoint⟩ := l.plan_eq
  have hr : r = job.run world clock := run_of_plan hplan world clock
  have hcases := job.ending_cases hfaults clock
  rw [← hendpoint]
  rw [← hr] at hcases
  constructor
  · intro nesting
    constructor
    · intro hbroken
      rcases hcases with (hcode | hcode) | ⟨nesting', hdeep⟩
      · cases hcode.symm.trans hbroken
      · cases hcode.symm.trans hbroken
      · rw [hr, Job.ending_of_tooDeep hdeep clock] at hbroken
        cases hbroken
        exact hdeep
    · intro hdeep
      rw [hr]
      exact Job.ending_of_tooDeep hdeep clock
  · intro hnone
    rcases hcases with hcode | ⟨nesting, hdeep⟩
    · refine ⟨hcode, job, hplan, rfl, ?_⟩
      rw [hr] at hcode ⊢
      rcases hcode with hcode | hcode <;> exact Job.run_concluded hcode
    · exact absurd hdeep (hnone nesting)

/-- An answer of opening brackets alone breaks the program off, if they are more than the arrays that
there may be inside one another. -/
theorem Accepted.run_brackets (l : Accepted env args) {world : World} {n : Nat}
    (h : world.limit < n)
    (hdelivers : world.Delivers (Utf8.encode (List.replicate n (point '[')) ++ [newline]))
    (clock : SystemClock) : (run env world args clock).ending = .error (.tooDeep .array) := by
  obtain ⟨job, hplan, -⟩ := l.plan_eq
  have hline : newline ∉ Utf8.encode (List.replicate n (point '[')) := by
    apply Utf8.newline_notMem_encode
    intro hmem
    exact absurd (List.eq_of_mem_replicate hmem) (by decide)
  have hreceived := Client.received_of_delivers hline hdelivers (List.forall_mem_nil _)
  rw [Utf8.stripReturns_brackets] at hreceived
  have hclosing : job.endpoint.closingFault? world = none := by
    rw [Endpoint.closingFault?_of_none hdelivers.connect]
    exact World.closeFault?_opened hdelivers.reader hdelivers.socket
  rw [run_of_plan hplan]
  exact Job.ending_of_tooDeep ⟨hclosing, _, hreceived, Response.decode_brackets h⟩ clock

/-- A command to a daemon, on a command line with its URL. -/
def acceptedAbout (home : Text) : Accepted ⟨home, none, none, none, none, none⟩
    ["--rpc-url", "tcp://h:1", "about"] where
  invocation := ⟨some (some "tcp://h:1"), none, false, some (.daemon "about")⟩
  command := .daemon "about"
  method := "about"
  params := []
  url := "tcp://h:1"
  endpoint := ⟨"tcp://h:1", .tcp "h" 1⟩
  read_eq := rfl
  command_eq := rfl
  call_eq := rfl
  url_eq := rfl
  endpoint_eq := rfl
  known := by rintro name ⟨⟩

/-- An answer of twenty thousand opening brackets: the program breaks off. -/
theorem run_unanswered :
    let line := Utf8.encode (List.replicate 20000 (point '['))
    let world : World := ⟨none, none, [.data line, .data [newline]], none, none, 984⟩
    world.OSFaults ∧
      (run ⟨"/home/gonit", none, none, none, none, none⟩ world
        ["--rpc-url", "tcp://h:1", "about"]).ending = .error (.tooDeep .array) := by
  intro line world
  have hfaults : world.OSFaults :=
    ⟨by simp [world], by simp [world], by simp [world], by simp [world], by simp [world]⟩
  have hdelivers : world.Delivers (line ++ [newline]) := by
    refine ⟨rfl, rfl, rfl, rfl, [], ?_⟩
    rw [World.items, List.map_append, List.append_nil]
    rfl
  exact ⟨hfaults, (acceptedAbout "/home/gonit").run_brackets (by decide) hdelivers []⟩

/-- A result that comes in two chunks, over a connection that cannot be closed. -/
theorem run_answered_unclosed :
    let f : Fault := ⟨.os, .numbered 5 "Input/output error"⟩
    let world : World := ⟨none, none, [.data [0x7B], .data [0x7D, 0x0A]], some f, none, 984⟩
    let r := run ⟨"/home/gonit", none, none, none, none, none⟩ world
      ["--rpc-url", "tcp://h:1", "about"]
    world.OSFaults ∧ (r.ending = .ok 0 ∨ r.ending = .ok 1) := by
  intro f world r
  have hf : f.isOS = true := rfl
  have hfaults : world.OSFaults :=
    ⟨by simp [world], by simp [world], by simp [world], by simp [world, hf], by simp [world]⟩
  have hnone : ∀ nesting, ¬Client.TooDeep (acceptedAbout "/home/gonit").endpoint world nesting := by
    rintro nesting ⟨hclosing, -⟩
    cases hclosing
  exact ⟨hfaults, ((run_answered (acceptedAbout "/home/gonit") hfaults []).2 hnone).1⟩

end Program

end SupervisorRpc
