import SupervisorRpc.Telemetry

/-! What telemetry adds to activities: nothing but the making of instruments, each time by a meter that
is asked for first.  The activities themselves go through as they are. -/

namespace SupervisorRpc

/-- The event asks for a meter or makes an instrument. -/
def Event.isMaking : Event → Bool
  | .meter _ | .createCounter _ _ _ | .createHistogram _ _ _ => true
  | _ => false

/-- The event is an activity with a property. -/
def Event.holds (p : Activity → Bool) : Event → Bool
  | .activity a => p a
  | _ => false

theorem Event.holds_of_isMaking (p : Activity → Bool) (e : Event) (h : e.isMaking = true) :
    e.holds p = false := by
  cases e with
  | activity a => cases h
  | _ => rfl

namespace Instruments

variable (i : Instruments)

theorem needCounter_isMaking (name description unit : Text) :
    ∀ e ∈ (i.needCounter name description unit).1, e.isMaking = true := by
  unfold needCounter
  split <;> simp [Event.isMaking]

theorem needHistogram_isMaking (name description unit : Text) :
    ∀ e ∈ (i.needHistogram name description unit).1, e.isMaking = true := by
  unfold needHistogram
  split <;> simp [Event.isMaking]

/-- Before an activity there is at most the making of its instrument. -/
theorem eventsOf_eq (a : Activity) :
    ∃ made, (i.eventsOf a).1 = made ++ [.activity a] ∧ ∀ e ∈ made, e.isMaking = true := by
  cases a with
  | add name amount attributes =>
    exact ⟨_, rfl, i.needCounter_isMaking name _ counterUnit⟩
  | record name value attributes =>
    exact ⟨_, rfl, i.needHistogram_isMaking name _ histogramUnit⟩
  | _ => exact ⟨[], rfl, by simp⟩

theorem filter_making {made : List Event} (h : ∀ e ∈ made, e.isMaking = true) :
    made.filter (!·.isMaking) = [] := by
  rw [List.filter_eq_nil_iff]
  intro e he
  simp [h e he]

theorem eventsOf_filter (a : Activity) :
    (i.eventsOf a).1.filter (!·.isMaking) = [.activity a] := by
  obtain ⟨made, heq, hmade⟩ := i.eventsOf_eq a
  rw [heq, List.filter_append, filter_making hmade]
  rfl

/-- Apart from the making of instruments, the events of activities are those activities. -/
theorem events_filter (trace : List Activity) :
    (i.events trace).1.filter (!·.isMaking) = trace.map .activity := by
  induction trace generalizing i with
  | nil => rfl
  | cons a trace ih =>
    rw [events, List.filter_append, eventsOf_filter, ih]
    rfl

/-- What is looked for among the events, but for the making of instruments, is among the activities. -/
theorem events_filter_of {p : Event → Bool} (h : ∀ e, e.isMaking = true → p e = false)
    (trace : List Activity) : (i.events trace).1.filter p = (trace.map .activity).filter p := by
  rw [← i.events_filter, List.filter_filter]
  apply List.filter_congr
  intro e _
  cases hmaking : e.isMaking with
  | false => simp
  | true => simp [h e hmaking]

theorem events_countP (p : Activity → Bool) (trace : List Activity) :
    (i.events trace).1.countP (Event.holds p) = trace.countP p := by
  rw [List.countP_eq_length_filter, i.events_filter_of (Event.holds_of_isMaking p),
    ← List.countP_eq_length_filter, List.countP_map]
  rfl

end Instruments

end SupervisorRpc
