import SupervisorRpc.Activity

/-! Running acts.  `Outcome.after` puts activities in front of an outcome, and the lemmas below run an
act step by step: each says what `x >>= f` comes to when it is known what `x` comes to.  Activities
are told apart as notes, sendings, closings, the tracing of spans and routine; `measurements` are the
notes that measure. -/

namespace SupervisorRpc

namespace Activity

/-- Log lines and measurements. -/
def isNote : Activity → Bool
  | .log _ _ _ | .add _ _ _ | .record _ _ _ => true
  | _ => false

def isSend : Activity → Bool
  | .send _ => true
  | _ => false

def isClosing : Activity → Bool
  | .closeReader | .closeSocket => true
  | _ => false

/-- The asking for a tracer, and the start and end of a span. -/
def isTracing : Activity → Bool
  | .tracer _ | .spanStart _ _ | .spanEnd _ => true
  | _ => false

def isSpanStart : Activity → Bool
  | .spanStart _ _ => true
  | _ => false

def isSpanEnd : Activity → Bool
  | .spanEnd _ => true
  | _ => false

def isMeasurement : Activity → Bool
  | .add _ _ _ | .record _ _ _ => true
  | _ => false

/-- Network operations, tracing and the lines of the log that are only for debugging. -/
def isRoutine : Activity → Bool
  | .log level _ _ => level = .debug
  | .add _ _ _ | .record _ _ _ => false
  | _ => true

variable {a : Activity}

theorem isSend_of_isNote (h : a.isNote = true) : a.isSend = false := by
  cases a <;> first | rfl | cases h

theorem isClosing_of_isNote (h : a.isNote = true) : a.isClosing = false := by
  cases a <;> first | rfl | cases h

theorem isSpanEnd_of_isNote (h : a.isNote = true) : a.isSpanEnd = false := by
  cases a <;> first | rfl | cases h

theorem isTracing_of_isNote (h : a.isNote = true) : a.isTracing = false := by
  cases a <;> first | rfl | cases h

theorem isSend_of_isTracing (h : a.isTracing = true) : a.isSend = false := by
  cases a <;> first | rfl | cases h

theorem isMeasurement_of_isTracing (h : a.isTracing = true) : a.isMeasurement = false := by
  cases a <;> first | rfl | cases h

theorem isMeasurement_of_isRoutine (h : a.isRoutine = true) : a.isMeasurement = false := by
  cases a <;> first | rfl | cases h

theorem isSpanStart_of_isTracing (h : a.isTracing = false) : a.isSpanStart = false := by
  cases a <;> first | rfl | cases h

end Activity

/-- Activities of a kind are counted alike among all and among those of a wider kind. -/
theorem countP_filter_of {p q : Activity → Bool} (h : ∀ {a}, p a = true → q a = true)
    (trace : List Activity) : (trace.filter q).countP p = trace.countP p := by
  rw [List.countP_filter]
  apply List.countP_congr
  intro a _
  simpa using h

/-- What is no routine has no part in activities that are. -/
theorem filter_of_isRoutine {p : Activity → Bool} (hp : ∀ {a}, a.isRoutine = true → p a = false)
    {trace : List Activity} (h : ∀ a ∈ trace, a.isRoutine = true) : trace.filter p = [] := by
  rw [List.filter_eq_nil_iff]
  intro a ha
  simp [hp (h a ha)]

def measurements (trace : List Activity) : List Activity := trace.filter Activity.isMeasurement

theorem measurements_append (first second : List Activity) :
    measurements (first ++ second) = measurements first ++ measurements second :=
  List.filter_append first second

namespace Outcome

variable {σ α : Type}

/-- The outcome when the activities `before` were performed earlier. -/
def after (before : List Activity) (o : Outcome σ α) : Outcome σ α :=
  { o with trace := before ++ o.trace }

@[simp] theorem after_result (before : List Activity) (o : Outcome σ α) :
    (o.after before).result = o.result := rfl

@[simp] theorem after_state (before : List Activity) (o : Outcome σ α) :
    (o.after before).state = o.state := rfl

@[simp] theorem after_trace (before : List Activity) (o : Outcome σ α) :
    (o.after before).trace = before ++ o.trace := rfl

@[simp] theorem after_nil (o : Outcome σ α) : o.after [] = o := rfl

@[simp] theorem after_after (first second : List Activity) (o : Outcome σ α) :
    (o.after second).after first = o.after (first ++ second) := by
  simp [after]

/-- The class of the failure that an outcome ends with, if it ends with one. -/
def failureClass? (o : Outcome σ α) : Option ErrorClass :=
  match o.result with
  | .ok _ => none
  | .error e => some e.errorClass

end Outcome

namespace Act

variable {σ α β : Type}

theorem bind_run_ok {x : Act σ α} {s s' : σ} {a : α} {trace : List Activity}
    (h : x s = ⟨.ok a, s', trace⟩) (f : α → Act σ β) :
    (x >>= f) s = (f a s').after trace := by
  simp only [bind, h]
  rfl

theorem bind_run_error {x : Act σ α} {s s' : σ} {e : Failure} {trace : List Activity}
    (h : x s = ⟨.error e, s', trace⟩) (f : α → Act σ β) :
    (x >>= f) s = ⟨.error e, s', trace⟩ := by
  simp only [bind, h]

@[simp] theorem pure_run (a : α) (s : σ) : (pure a : Act σ α) s = ⟨.ok a, s, []⟩ := rfl

@[simp] theorem perform_run (a : Activity) (s : σ) : perform a s = ⟨.ok (), s, [a]⟩ := rfl

@[simp] theorem log_run (level : Level) (logger message : Text) (s : σ) :
    log level logger message s = ⟨.ok (), s, [.log level logger message]⟩ := rfl

@[simp] theorem fail_run (e : Failure) (s : σ) : (fail e : Act σ α) s = ⟨.error e, s, []⟩ := rfl

@[simp] theorem raise_none_run (s : σ) : raise none s = ⟨.ok (), s, []⟩ := rfl

@[simp] theorem raise_some_run (f : Fault) (s : σ) :
    raise (some f) s = ⟨.error (.fault f), s, []⟩ := rfl

@[simp] theorem perform_bind_run (a : Activity) (f : Unit → Act σ β) (s : σ) :
    (perform a >>= f) s = (f () s).after [a] := rfl

@[simp] theorem log_bind_run (level : Level) (logger message : Text) (f : Unit → Act σ β) (s : σ) :
    (log level logger message >>= f) s = (f () s).after [.log level logger message] := rfl

@[simp] theorem fail_bind_run (e : Failure) (f : α → Act σ β) (s : σ) :
    (fail e >>= f) s = ⟨.error e, s, []⟩ := rfl

@[simp] theorem raise_none_bind_run (f : Unit → Act σ β) (s : σ) :
    (raise none >>= f) s = f () s := rfl

@[simp] theorem raise_some_bind_run (fault : Fault) (f : Unit → Act σ β) (s : σ) :
    (raise (some fault) >>= f) s = ⟨.error (.fault fault), s, []⟩ := rfl

@[simp] theorem require_some_bind_run (a : α) (e : Failure) (f : α → Act σ β) (s : σ) :
    (require (some a) e >>= f) s = f a s := rfl

@[simp] theorem require_none_bind_run (e : Failure) (f : α → Act σ β) (s : σ) :
    (require none e >>= f) s = ⟨.error e, s, []⟩ := rfl

@[simp] theorem getState_bind_run (f : σ → Act σ β) (s : σ) :
    (getState >>= f) s = f s s := rfl

@[simp] theorem setState_bind_run (s' : σ) (f : Unit → Act σ β) (s : σ) :
    (setState s' >>= f) s = f () s' := rfl

/-- Giving the value of an act another form changes nothing but that value. -/
theorem bind_pure_run (x : Act σ α) (f : α → β) (s : σ) :
    (x >>= fun a => pure (f a)) s = ⟨(x s).result.map f, (x s).state, (x s).trace⟩ := by
  rcases h : x s with ⟨_ | a, s', trace⟩
  · rw [bind_run_error h]
    rfl
  · rw [bind_run_ok h]
    simp [Outcome.after, Except.map]

/-- What is performed after an ending if `note` follows failures of the operating system. -/
def osNotes (note : Failure → List Activity) : Except Failure α → List Activity
  | .ok _ => []
  | .error e => if e.isOS then note e else []

/-- A handler that only writes notes adds them, and changes nothing else. -/
theorem onOSFailure_run (x : Act σ α) {handler : Failure → Act σ Unit}
    {note : Failure → List Activity} (h : ∀ e s, handler e s = ⟨.ok (), s, note e⟩) (s : σ) :
    onOSFailure x handler s =
      { x s with trace := (x s).trace ++ osNotes note (x s).result } := by
  unfold onOSFailure
  obtain ⟨result, s', trace⟩ := x s
  cases result with
  | ok a => simp [osNotes]
  | error e => cases he : e.isOS <;> simp [osNotes, he, h]

theorem ensuring_run_ok (x : Act σ α) {cleanup : Act σ Unit} {s s' : σ} {trace : List Activity}
    (h : cleanup (x s).state = ⟨.ok (), s', trace⟩) :
    ensuring x cleanup s = ⟨(x s).result, s', (x s).trace ++ trace⟩ := by
  simp [ensuring, h]

theorem ensuring_run_error (x : Act σ α) {cleanup : Act σ Unit} {s s' : σ} {e : Failure}
    {trace : List Activity} (h : cleanup (x s).state = ⟨.error e, s', trace⟩) :
    ensuring x cleanup s = ⟨.error e, s', (x s).trace ++ trace⟩ := by
  simp [ensuring, h]

theorem ensuring_state (x : Act σ α) (cleanup : Act σ Unit) (s : σ) :
    (ensuring x cleanup s).state = (cleanup (x s).state).state := by
  unfold ensuring
  cases h : (cleanup (x s).state).result <;> simp [h]

theorem ensuring_trace (x : Act σ α) (cleanup : Act σ Unit) (s : σ) :
    (ensuring x cleanup s).trace = (x s).trace ++ (cleanup (x s).state).trace := by
  unfold ensuring
  cases h : (cleanup (x s).state).result <;> simp [h]

theorem within_run_ok {start : Act Unit σ} {inner : σ} {before : List Activity}
    (h : start () = ⟨.ok inner, (), before⟩) (x : Act σ α) :
    within start x () = ⟨(x inner).result, (), before ++ (x inner).trace⟩ := by
  simp [within, h]

theorem within_run_error {start : Act Unit σ} {e : Failure} {before : List Activity}
    (h : start () = ⟨.error e, (), before⟩) (x : Act σ α) :
    within start x () = ⟨.error e, (), before⟩ := by
  simp [within, h]

/-- A span stands around the activities of an act, and says at its end how the act ended. -/
theorem span_run (name : Text) (attributes : Json.Members) (x : Act σ α) (s : σ) :
    span name attributes x s =
      ⟨(x s).result, (x s).state,
        .tracer "gonit_api" :: .spanStart name attributes ::
          ((x s).trace ++ [.spanEnd (x s).failureClass?])⟩ := rfl

end Act

end SupervisorRpc
