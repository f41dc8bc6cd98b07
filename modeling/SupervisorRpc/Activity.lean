import SupervisorRpc.Failure

/-! What the client does to the world, as a list of activities in the order in which they happen: log
lines, spans, network operations and measurements. -/

namespace SupervisorRpc

/-- The levels of log lines, in ascending order of weight. -/
inductive Level where
  | debug
  | info
  | error
deriving DecidableEq

namespace Level

def weight : Level → Nat
  | debug => 10
  | info => 20
  | error => 40

def name : Level → Text
  | debug => "DEBUG"
  | info => "INFO"
  | error => "ERROR"

end Level

/-- One thing that is done to the world. -/
inductive Activity where
  | log (level : Level) (logger message : Text)
  /-- A tracer is asked for by name. -/
  | tracer (name : Text)
  | spanStart (name : Text) (attributes : Json.Members)
  /-- A span ends; `failure` is the class of the failure that leaves it, if one does. -/
  | spanEnd (failure : Option ErrorClass)
  | dialTcp (host : Option Text) (port : Option Nat)
  | openUnix
  | dialUnix (path : Option Text)
  | send (line : Text)
  | closeReader
  | closeSocket
  /-- A counter is raised. -/
  | add (counter : Text) (amount : Number) (attributes : Json.Members)
  /-- A histogram gets a value. -/
  | record (histogram : Text) (value : Number) (attributes : Json.Members)

/-- An act reads and changes a state, performs activities, and ends in a value or a failure.  The
state after a failure counts too. -/
structure Outcome (σ α : Type) where
  result : Except Failure α
  state : σ
  trace : List Activity

/-- An operation on a state of type `σ` that gives a value of type `α`. -/
def Act (σ α : Type) := σ → Outcome σ α

namespace Act

variable {σ α β : Type}

instance : Monad (Act σ) where
  pure a s := ⟨.ok a, s, []⟩
  bind x f s :=
    match x s with
    | ⟨.ok a, s, trace⟩ =>
      let next := f a s
      ⟨next.result, next.state, trace ++ next.trace⟩
    | ⟨.error e, s, trace⟩ => ⟨.error e, s, trace⟩

/-- Performs an activity. -/
def perform (a : Activity) : Act σ Unit := fun s => ⟨.ok (), s, [a]⟩

/-- Fails. -/
def fail (e : Failure) : Act σ α := fun s => ⟨.error e, s, []⟩

/-- Fails with a fault if there is one. -/
def raise (f : Option Fault) : Act σ Unit := fun s =>
  match f with
  | none => ⟨.ok (), s, []⟩
  | some f => ⟨.error (.fault f), s, []⟩

/-- The value at hand, or the failure where there is none. -/
def require (value : Option α) (e : Failure) : Act σ α := fun s =>
  match value with
  | some a => ⟨.ok a, s, []⟩
  | none => ⟨.error e, s, []⟩

def getState : Act σ σ := fun s => ⟨.ok s, s, []⟩

def setState (s : σ) : Act σ Unit := fun _ => ⟨.ok (), s, []⟩

/-- Writes a log line. -/
def log (level : Level) (logger message : Text) : Act σ Unit := perform (.log level logger message)

/-- `x`, and after a failure of the operating system also `handler`; the failure stays. -/
def onOSFailure (x : Act σ α) (handler : Failure → Act σ Unit) : Act σ α := fun s =>
  match x s with
  | ⟨.error e, s, trace⟩ =>
    if e.isOS then
      let handled := handler e s
      match handled.result with
      | .ok () => ⟨.error e, handled.state, trace ++ handled.trace⟩
      | .error e => ⟨.error e, handled.state, trace ++ handled.trace⟩
    else ⟨.error e, s, trace⟩
  | done => done

/-- `x`, and in any case `cleanup` after it.  A failure of the clean-up takes the place of the
result. -/
def ensuring (x : Act σ α) (cleanup : Act σ Unit) : Act σ α := fun s =>
  let body := x s
  let ending := cleanup body.state
  match ending.result with
  | .ok () => ⟨body.result, ending.state, body.trace ++ ending.trace⟩
  | .error e => ⟨.error e, ending.state, body.trace ++ ending.trace⟩

/-- Runs an act on the state that another act makes, and forgets that state. -/
def within (start : Act Unit σ) (x : Act σ α) : Act Unit α := fun s =>
  match start s with
  | ⟨.ok inner, s, trace⟩ =>
    let body := x inner
    ⟨body.result, s, trace ++ body.trace⟩
  | ⟨.error e, s, trace⟩ => ⟨.error e, s, trace⟩

/-- `x` in a client span. -/
def span (name : Text) (attributes : Json.Members) (x : Act σ α) : Act σ α := fun s =>
  let body := x s
  let failure :=
    match body.result with
    | .ok _ => none
    | .error e => some e.errorClass
  ⟨body.result, body.state,
    .tracer "gonit_api" :: .spanStart name attributes :: (body.trace ++ [.spanEnd failure])⟩

end Act

end SupervisorRpc
