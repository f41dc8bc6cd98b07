import Mathlib.Data.List.Induction
import SupervisorRpc.Session

/-! Runs of sessions.  What a step gives depends on the steps before it through the state that they
leave: the home directory, which no step changes, the client, which belongs to the last URL that a
client could be made for, and the instruments. -/

namespace SupervisorRpc

namespace Session

/-- The state that steps leave. -/
def State.after (s : State) (steps : List Step) : State :=
  steps.foldl (fun s step => (s.step step).state) s

/-- The URL of the client that a step makes.  There is none if the URL is no endpoint. -/
def Step.clientUrl? (home : Text) : Step → Option (Option Text)
  | .new url => if (Endpoint.parse home url).isOk then some url else none
  | _ => none

/-- The URL of the client that is in use after steps. -/
def clientUrl? (home : Text) (steps : List Step) : Option (Option Text) :=
  (steps.filterMap (Step.clientUrl? home)).getLast?

variable {s : State}

@[simp] theorem State.after_nil (s : State) : s.after [] = s := rfl

@[simp] theorem State.after_cons (s : State) (step : Step) (rest : List Step) :
    s.after (step :: rest) = (s.step step).state.after rest := rfl

theorem State.after_append (s : State) (first second : List Step) :
    s.after (first ++ second) = (s.after first).after second := by
  simp [State.after]

theorem run_append (s : State) (first second : List Step) :
    s.run (first ++ second) = s.run first ++ (s.after first).run second := by
  induction first generalizing s with
  | nil => rfl
  | cons step first ih => simp only [List.cons_append, State.run, State.after_cons, ih]

theorem length_run (s : State) (steps : List Step) : (s.run steps).length = steps.length := by
  induction steps generalizing s with
  | nil => rfl
  | cons step rest ih => simp only [State.run, List.length_cons, ih]

/-- The report of a step among others. -/
theorem run_getElem? (s : State) (before : List Step) (step : Step) (after : List Step) :
    (s.run (before ++ step :: after))[before.length]? = some ((s.after before).step step) := by
  have hlength := length_run s before
  rw [run_append, List.getElem?_append_right (by omega), hlength, Nat.sub_self]
  rfl

theorem step_home (s : State) (step : Step) : (s.step step).state.home = s.home := by
  cases step with
  | new url =>
    rw [State.step]
    cases Endpoint.parse s.home url <;> rfl
  | call world clock name params | dispatch world clock name params =>
    rw [State.step]
    cases s.client <;> rfl
  | _ => rfl

theorem after_home (s : State) (steps : List Step) : (s.after steps).home = s.home := by
  induction steps generalizing s with
  | nil => rfl
  | cons step rest ih => rw [State.after_cons, ih, step_home]

theorem step_client_of_none {step : Step} (h : step.clientUrl? s.home = none) :
    (s.step step).state.client = s.client := by
  cases step with
  | new url =>
    rw [Step.clientUrl?] at h
    rw [State.step]
    cases hparse : Endpoint.parse s.home url with
    | error e => rfl
    | ok e => simp [hparse, Except.isOk, Except.toBool] at h
  | call world clock name params | dispatch world clock name params =>
    rw [State.step]
    cases hclient : s.client with
    | none => exact hclient
    | some e => exact hclient
  | _ => rfl

theorem step_client_of_some {step : Step} {url : Option Text}
    (h : step.clientUrl? s.home = some url) :
    ∃ e, Endpoint.parse s.home url = .ok e ∧ (s.step step).state.client = some e := by
  cases step with
  | new url' =>
    rw [Step.clientUrl?] at h
    rw [State.step]
    cases hparse : Endpoint.parse s.home url' with
    | error e => simp [hparse, Except.isOk, Except.toBool] at h
    | ok e =>
      obtain rfl : url' = url := by simpa [hparse, Except.isOk, Except.toBool] using h
      exact ⟨e, hparse, rfl⟩
  | _ => cases h

/-- The client in use is that of the last URL that a client could be made for. -/
theorem after_client {steps : List Step} {url : Option Text}
    (h : clientUrl? s.home steps = some url) :
    ∃ e, Endpoint.parse s.home url = .ok e ∧ (s.after steps).client = some e := by
  -- The induction is from the end of the steps, where the last client is made.
  induction steps using List.reverseRecOn with
  | nil => cases h
  | append_singleton steps step ih =>
    have hhome := after_home s steps
    rw [clientUrl?, List.filterMap_append, List.getLast?_append] at h
    rw [State.after_append, State.after_cons, State.after_nil]
    cases hstep : step.clientUrl? s.home with
    | none =>
      rw [List.filterMap_cons_none hstep] at h
      obtain ⟨e, he, hclient⟩ := ih h
      exact ⟨e, he, (step_client_of_none (hhome ▸ hstep)).trans hclient⟩
    | some url' =>
      rw [List.filterMap_cons_some hstep] at h
      obtain rfl : url' = url := Option.some.inj h
      rw [← hhome] at hstep ⊢
      exact step_client_of_some hstep

end Session

end SupervisorRpc
