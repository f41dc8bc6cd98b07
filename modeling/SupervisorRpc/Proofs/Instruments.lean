import SupervisorRpc.Proofs.Telemetry

/-! How a trace serves the requests for instruments.  `Instruments.Served` says step by step which
requests make an instrument and which find it, and with which instruments the trace may measure.  From
it follow the laws of a trace: measuring comes after making, each provider makes an instrument at most
once, and what is made is the first request for each instrument. -/

namespace SupervisorRpc

namespace Instruments

inductive Kind where
  | counter
  | histogram
deriving DecidableEq

/-- An instrument that is wanted, with the description and the unit that it gets if it is made. -/
structure Demand where
  kind : Kind
  name : Text
  description : Text
  unit : Text
deriving DecidableEq

/-- What tells an instrument from others. -/
def Demand.key (d : Demand) : Kind × Text := (d.kind, d.name)

def Demand.same (d d' : Demand) : Bool := d.key = d'.key

/-- What a program asks of its metrics: a new provider, or an instrument. -/
inductive Request where
  | provider
  | instrument (d : Demand)

def Request.isProvider : Request → Bool
  | .provider => true
  | .instrument _ => false

def Request.demand? : Request → Option Demand
  | .provider => none
  | .instrument d => some d

end Instruments

open Instruments

/-- The instrument that an activity measures with, as it is wanted. -/
def Activity.demand? : Activity → Option Demand
  | .add name _ _ => some ⟨.counter, name, text "Counter for " ++ name, counterUnit⟩
  | .record name _ _ => some ⟨.histogram, name, text "Latency histogram for " ++ name, histogramUnit⟩
  | _ => none

namespace Event

def demand? : Event → Option Demand
  | .activity a => a.demand?
  | _ => none

/-- The instrument that an event makes. -/
def made? : Event → Option Demand
  | .createCounter name description unit => some ⟨.counter, name, description, unit⟩
  | .createHistogram name description unit => some ⟨.histogram, name, description, unit⟩
  | _ => none

/-- From this event on there is a new provider of metrics. -/
def isProvider : Event → Bool
  | .setMeterProvider => true
  | _ => false

def makes (key : Kind × Text) (e : Event) : Bool := e.made?.map Demand.key = some key

end Event

namespace Instruments

/-- The present provider has an instrument. -/
def Has (i : Instruments) : Kind × Text → Prop
  | (.counter, name) => name ∈ i.counters
  | (.histogram, name) => name ∈ i.histograms

instance (i : Instruments) (key : Kind × Text) : Decidable (i.Has key) := by
  obtain ⟨kind, name⟩ := key
  cases kind
  · exact inferInstanceAs (Decidable (name ∈ i.counters))
  · exact inferInstanceAs (Decidable (name ∈ i.histograms))

def put (i : Instruments) : Kind × Text → Instruments
  | (.counter, name) => { i with counters := name :: i.counters }
  | (.histogram, name) => { i with histograms := name :: i.histograms }

theorem has_put {i : Instruments} {key key' : Kind × Text} :
    (i.put key).Has key' ↔ key' = key ∨ i.Has key' := by
  obtain ⟨kind, name⟩ := key
  obtain ⟨kind', name'⟩ := key'
  cases kind <;> cases kind' <;> simp [put, Has]

theorem not_has_empty (key : Kind × Text) : ¬ empty.Has key := by
  obtain ⟨kind, name⟩ := key
  cases kind <;> exact List.not_mem_nil

def need (i : Instruments) (d : Demand) : List Event × Instruments :=
  match d.kind with
  | .counter => i.needCounter d.name d.description d.unit
  | .histogram => i.needHistogram d.name d.description d.unit

/-- From the instruments `i`, events serve requests and leave `i'`.  An instrument is made when it is
asked for and missing; there is measuring only with instruments that the provider has. -/
inductive Served : (i : Instruments) → List Request → List Event → (i' : Instruments) → Prop
  | nil (i : Instruments) : Served i [] [] i
  | provider {i i' : Instruments} {requests : List Request} {events : List Event} {e : Event}
      (he : e.isProvider = true) (hrest : Served empty requests events i') :
      Served i (.provider :: requests) (e :: events) i'
  | found {i i' : Instruments} {requests : List Request} {events : List Event} {d : Demand}
      (hd : i.Has d.key) (hrest : Served i requests events i') :
      Served i (.instrument d :: requests) events i'
  | made {i i' : Instruments} {requests : List Request} {events : List Event} {e : Event}
      {d : Demand} (he : e.made? = some d) (hd : ¬ i.Has d.key)
      (hrest : Served (i.put d.key) requests events i') :
      Served i (.instrument d :: requests) (e :: events) i'
  | passed {i i' : Instruments} {requests : List Request} {events : List Event} {e : Event}
      (hprovider : e.isProvider = false) (hmade : e.made? = none)
      (hdemand : ∀ d, e.demand? = some d → i.Has d.key) (hrest : Served i requests events i') :
      Served i requests (e :: events) i'

namespace Served

variable {i j i' : Instruments} {requests requests' : List Request} {events events' : List Event}

theorem trans (h : Served i requests events j) (h' : Served j requests' events' i') :
    Served i (requests ++ requests') (events ++ events') i' := by
  induction h with
  | nil => exact h'
  | provider he _ ih => exact .provider he (ih h')
  | found hd _ ih => exact .found hd (ih h')
  | made he hd _ ih => exact .made he hd (ih h')
  | passed hprovider hmade hdemand _ ih => exact .passed hprovider hmade hdemand (ih h')

/-- Events that neither make nor measure change nothing. -/
theorem quiet {events : List Event}
    (h : ∀ e ∈ events, e.isProvider = false ∧ e.made? = none ∧ e.demand? = none) :
    Served i [] events i := by
  induction events with
  | nil => exact .nil i
  | cons e events ih =>
    obtain ⟨⟨hprovider, hmade, hdemand⟩, hrest⟩ := List.forall_mem_cons.mp h
    exact .passed hprovider hmade (fun d hd => nomatch hdemand.symm.trans hd) (ih hrest)

end Served

theorem served_need (i : Instruments) (d : Demand) :
    Served i [.instrument d] (i.need d).1 (i.need d).2 ∧ (i.need d).2.Has d.key := by
  obtain ⟨kind, name, description, unit⟩ := d
  by_cases hd : i.Has (kind, name)
  · have hneed : i.need ⟨kind, name, description, unit⟩ = ([], i) := by
      cases kind
      · exact if_pos (by simpa [Has] using hd)
      · exact if_pos (by simpa [Has] using hd)
    rw [hneed]
    exact ⟨.found hd (.nil i), hd⟩
  · have hneed : i.need ⟨kind, name, description, unit⟩ =
        ([.meter meterName, match kind with
          | .counter => .createCounter name description unit
          | .histogram => .createHistogram name description unit], i.put (kind, name)) := by
      cases kind
      · exact if_neg (by simpa [Has] using hd)
      · exact if_neg (by simpa [Has] using hd)
    rw [hneed]
    refine ⟨.passed rfl rfl (fun d h => nomatch h) (.made (d := ⟨kind, name, description, unit⟩)
      ?_ hd (.nil _)), has_put.mpr (.inl rfl)⟩
    cases kind <;> rfl

/-- The requests of activities: each measurement asks for its instrument. -/
def requestsOf (trace : List Activity) : List Request :=
  (trace.filterMap Activity.demand?).map .instrument

theorem served_eventsOf (i : Instruments) (a : Activity) :
    Served i (requestsOf [a]) (i.eventsOf a).1 (i.eventsOf a).2 := by
  cases hdemand : a.demand? with
  | none =>
    have hevents : i.eventsOf a = ([.activity a], i) := by
      cases a with
      | add | record => cases hdemand
      | _ => rfl
    have hrequests : requestsOf [a] = [] := by
      rw [requestsOf, List.filterMap_cons_none hdemand]
      rfl
    rw [hevents, hrequests]
    exact .quiet (by simpa [Event.isProvider, Event.made?, Event.demand?] using hdemand)
  | some d =>
    have hevents : i.eventsOf a = ((i.need d).1 ++ [.activity a], (i.need d).2) := by
      cases a with
      | add | record => cases hdemand; rfl
      | _ => cases hdemand
    have hrequests : requestsOf [a] = [.instrument d] := by
      rw [requestsOf, List.filterMap_cons_some hdemand]
      rfl
    obtain ⟨hserved, hhas⟩ := served_need i d
    have hmeasured : Served (i.need d).2 [] [.activity a] (i.need d).2 := by
      refine .passed rfl rfl ?_ (.nil _)
      intro d' h
      obtain rfl : d = d' := Option.some.inj (hdemand.symm.trans h)
      exact hhas
    rw [hevents, hrequests]
    exact hserved.trans hmeasured

theorem served_events (i : Instruments) (trace : List Activity) :
    Served i (requestsOf trace) (i.events trace).1 (i.events trace).2 := by
  induction trace generalizing i with
  | nil => exact .nil i
  | cons a trace ih =>
    have hrequests : requestsOf (a :: trace) = requestsOf [a] ++ requestsOf trace := by
      simp only [requestsOf, ← List.map_append, ← List.filterMap_append]
      rfl
    rw [hrequests]
    exact (served_eventsOf i a).trans (ih (i.eventsOf a).2)

/-! ### The laws of a served trace -/

/-- An event may happen where the provider has the instruments `i`, and leaves `j`. -/
inductive Allowed (i : Instruments) (e : Event) : Instruments → Prop
  | provider (he : e.isProvider = true) : Allowed i e empty
  | made {d : Demand} (he : e.made? = some d) (hd : ¬ i.Has d.key) : Allowed i e (i.put d.key)
  | passed (hprovider : e.isProvider = false) (hmade : e.made? = none)
      (hdemand : ∀ d, e.demand? = some d → i.Has d.key) : Allowed i e i

theorem isProvider_of_made? {e : Event} {d : Demand} (h : e.made? = some d) :
    e.isProvider = false := by
  cases e <;> first | rfl | cases h

theorem demand?_of_made? {e : Event} {d : Demand} (h : e.made? = some d) : e.demand? = none := by
  cases e <;> first | rfl | cases h

theorem demand?_of_isProvider {e : Event} (h : e.isProvider = true) : e.demand? = none := by
  cases e <;> first | rfl | cases h

namespace Served

variable {i i' : Instruments} {requests : List Request} {before part events : List Event} {e : Event}

theorem uncons (h : Served i requests (e :: events) i') :
    ∃ j requests', Allowed i e j ∧ Served j requests' events i' := by
  generalize hall : e :: events = all at h
  induction h with
  | nil => cases hall
  | found _ _ ih => exact ih hall
  | provider he hrest =>
    cases hall
    exact ⟨_, _, .provider he, hrest⟩
  | made he hd hrest =>
    cases hall
    exact ⟨_, _, .made he hd, hrest⟩
  | passed hprovider hmade hdemand hrest =>
    cases hall
    exact ⟨_, _, .passed hprovider hmade hdemand, hrest⟩

theorem split (h : Served i requests (part ++ events) i') :
    ∃ j requests', Served j requests' events i' := by
  induction part generalizing i requests with
  | nil => exact ⟨i, requests, h⟩
  | cons e part ih =>
    obtain ⟨j, requests', -, hrest⟩ := h.uncons
    exact ih hrest

/-- What is measured with is there from the start or made on the way, under the provider of that
moment. -/
theorem made_before {d : Demand} (h : Served i requests (before ++ e :: events) i')
    (he : e.demand? = some d) :
    (i.Has d.key ∧ ∀ x ∈ before, x.isProvider = false) ∨
      ∃ earlier made between, before = earlier ++ made :: between ∧ made.makes d.key = true ∧
        ∀ x ∈ between, x.isProvider = false := by
  induction before generalizing i requests with
  | nil =>
    obtain ⟨j, requests', hallowed, -⟩ := h.uncons
    cases hallowed with
    | provider hprovider =>
      rw [demand?_of_isProvider hprovider] at he
      cases he
    | made hmade =>
      rw [demand?_of_made? hmade] at he
      cases he
    | passed _ _ hdemand => exact .inl ⟨hdemand d he, by simp⟩
  | cons x before ih =>
    obtain ⟨j, requests', hallowed, hrest⟩ := h.uncons
    rcases ih hrest with ⟨hhas, hbefore⟩ | ⟨earlier, made, between, rfl, hmade, hbetween⟩
    · -- It is there after `x`: either `x` makes it, or it was there before.
      cases hallowed with
      | provider => exact absurd hhas (not_has_empty d.key)
      | @made d' hx hd =>
        rcases has_put.mp hhas with hkey | hhas
        · refine .inr ⟨[], x, before, rfl, ?_, hbefore⟩
          simp [Event.makes, hx, hkey]
        · exact .inl ⟨hhas, List.forall_mem_cons.mpr ⟨isProvider_of_made? hx, hbefore⟩⟩
      | passed hprovider => exact .inl ⟨hhas, List.forall_mem_cons.mpr ⟨hprovider, hbefore⟩⟩
    · exact .inr ⟨x :: earlier, made, between, rfl, hmade, hbetween⟩

/-- Without a new provider, an instrument is made at most once, and not at all if it is there. -/
theorem countP_makes (h : Served i requests (part ++ events) i')
    (hpart : ∀ x ∈ part, x.isProvider = false) (key : Kind × Text) :
    part.countP (·.makes key) ≤ if i.Has key then 0 else 1 := by
  induction part generalizing i requests with
  | nil => simp
  | cons x part ih =>
    obtain ⟨hx, hpart⟩ := List.forall_mem_cons.mp hpart
    obtain ⟨j, requests', hallowed, hrest⟩ := h.uncons
    have hcount := ih hrest hpart
    cases hallowed with
    | provider hprovider =>
      rw [hx] at hprovider
      cases hprovider
    | @made d hmade hd =>
      by_cases hkey : key = d.key
      · subst hkey
        rw [if_pos (has_put.mpr (.inl rfl))] at hcount
        rw [List.countP_cons, if_neg hd]
        split <;> omega
      · have hx' : x.makes key = false := by simpa [Event.makes, hmade] using Ne.symm hkey
        simp only [has_put, hkey, false_or] at hcount
        rw [List.countP_cons, hx']
        exact hcount
    | passed _ hmade =>
      have hx' : x.makes key = false := by simp [Event.makes, hmade]
      rw [List.countP_cons, hx']
      exact hcount

end Served

/-- What `f` picks from each of the stretches between the elements that satisfy `p`. -/
def stretches {α β : Type} (p : α → Bool) (f : α → Option β) (l : List α) : List (List β) :=
  (l.splitOnP p).map (·.filterMap f)

section

variable {α β : Type} {p : α → Bool} {f : α → Option β} {a : α} {l : List α}

theorem stretches_cons_of_pos (h : p a = true) : stretches p f (a :: l) = [] :: stretches p f l := by
  simp [stretches, List.splitOnP_cons_eq_if_modifyHead, h]

theorem stretches_cons_of_none (h : p a = false) (hf : f a = none) :
    stretches p f (a :: l) = stretches p f l := by
  obtain ⟨first, rest, hsplit⟩ := List.exists_cons_of_ne_nil (List.splitOnP_ne_nil p l)
  simp [stretches, List.splitOnP_cons_eq_if_modifyHead, h, hsplit, hf]

theorem stretches_cons_of_some {b : β} (h : p a = false) (hf : f a = some b) :
    stretches p f (a :: l) = (stretches p f l).modifyHead (b :: ·) := by
  obtain ⟨first, rest, hsplit⟩ := List.exists_cons_of_ne_nil (List.splitOnP_ne_nil p l)
  simp [stretches, List.splitOnP_cons_eq_if_modifyHead, h, hsplit, hf]

end

def firsts (demands : List Demand) : List Demand := demands.eraseDupsBy Demand.same

/-- The first demand for each instrument that is missing. -/
def missing (i : Instruments) (demands : List Demand) : List Demand :=
  firsts (demands.filter fun d => !decide (i.Has d.key))

theorem missing_empty (demands : List Demand) : empty.missing demands = firsts demands := by
  have hall : demands.filter (fun d => !decide (empty.Has d.key)) = demands := by
    rw [List.filter_eq_self]
    intro d _
    simp [not_has_empty]
  rw [missing, hall]

theorem missing_cons_of_has {i : Instruments} {d : Demand} (h : i.Has d.key)
    (demands : List Demand) : i.missing (d :: demands) = i.missing demands := by
  rw [missing, List.filter_cons_of_neg (by simp [h])]
  rfl

theorem missing_cons {i : Instruments} {d : Demand} (h : ¬ i.Has d.key) (demands : List Demand) :
    i.missing (d :: demands) = d :: (i.put d.key).missing demands := by
  rw [missing, List.filter_cons_of_pos (by simp [h]), firsts, List.eraseDupsBy_cons,
    List.filter_filter, missing, firsts]
  congr 3
  funext d'
  simp [has_put, Demand.same]

/-- The demands that are met by making, where the provider of the first stretch has the instruments
`i`. -/
def supply (i : Instruments) : List (List Demand) → List (List Demand)
  | [] => []
  | first :: rest => i.missing first :: rest.map firsts

theorem supply_empty (parts : List (List Demand)) : empty.supply parts = parts.map firsts := by
  cases parts with
  | nil => rfl
  | cons first rest => rw [supply, missing_empty, List.map_cons]

theorem stretches_instrument (d : Demand) (requests : List Request) :
    stretches Request.isProvider Request.demand? (.instrument d :: requests) =
      (stretches Request.isProvider Request.demand? requests).modifyHead (d :: ·) :=
  stretches_cons_of_some rfl rfl

/-- Each provider makes the instruments of its first demands, and nothing else. -/
theorem Served.stretches_made {i i' : Instruments} {requests : List Request} {events : List Event}
    (h : Served i requests events i') :
    stretches Event.isProvider Event.made? events =
      i.supply (stretches Request.isProvider Request.demand? requests) := by
  induction h with
  | nil i => rfl
  | provider he _ ih =>
    rw [stretches_cons_of_pos he, ih, supply_empty, stretches_cons_of_pos rfl]
    rfl
  | @found i i' requests events d hd _ ih =>
    rw [ih, stretches_instrument]
    cases stretches Request.isProvider Request.demand? requests with
    | nil => rfl
    | cons first rest =>
      rw [List.modifyHead_cons, supply, supply, missing_cons_of_has hd]
  | @made i i' requests events e d he hd _ ih =>
    rw [stretches_cons_of_some (isProvider_of_made? he) he, ih,
      stretches_instrument]
    cases stretches Request.isProvider Request.demand? requests with
    | nil => rfl
    | cons first rest =>
      rw [List.modifyHead_cons, supply, supply, missing_cons hd, List.modifyHead_cons]
  | passed hprovider hmade _ _ ih =>
    rw [stretches_cons_of_none hprovider hmade, ih]

end Instruments

end SupervisorRpc
