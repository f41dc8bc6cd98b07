import SupervisorRpc.Client
import SupervisorRpc.Proofs.Json.Excess

/-! Which parameters make a request.  The first that cannot be written decides with what failure a request
is refused; where all can be written, the request is the text of their values. -/

namespace SupervisorRpc

namespace Client

variable {room : Nat} {method : Text} {params : List Param}

/-- A request is made of the values of its parameters. -/
theorem requestLine_eq_ok {request : Text}
    (h : requestLine room method params = .ok request) :
    ∃ values, params.mapM (Param.writable room) = .ok values ∧
      Json.encode Json.compact
        (.object [("method", .string method), ("params", .array values)]) = request := by
  rw [requestLine] at h
  cases hvalues : params.mapM (Param.writable room) with
  | error e =>
    rw [hvalues] at h
    cases h
  | ok values =>
    rw [hvalues] at h
    exact ⟨values, rfl, Except.ok.inj h⟩

theorem requestLine_eq_error_iff {e : Failure} :
    requestLine room method params = .error e ↔ params.mapM (Param.writable room) = .error e := by
  rw [requestLine]
  cases params.mapM (Param.writable room) with
  | error e' => simp [bind, Except.bind]
  | ok values => simp [bind, Except.bind, pure, Except.pure]

theorem mapM_writable_cons_error {p : Param} {e : Failure}
    (h : p.writable room = .error e) :
    (p :: params).mapM (Param.writable room) = .error e := by
  rw [List.mapM_cons, h]
  rfl

theorem mapM_writable_cons_ok {p : Param} {v : Json} (h : p.writable room = .ok v)
    {e : Failure} : (p :: params).mapM (Param.writable room) = .error e ↔
      params.mapM (Param.writable room) = .error e := by
  rw [List.mapM_cons, h]
  cases params.mapM (Param.writable room) <;> simp [bind, Except.bind, pure, Except.pure]

/-- Writing the parameters fails with the failure of the first that cannot be written. -/
theorem mapM_writable_eq_error_iff {e : Failure} :
    params.mapM (Param.writable room) = .error e ↔
      ∃ before p after, params = before ++ p :: after ∧
        (∀ q ∈ before, ∃ v, q.writable room = .ok v) ∧ p.writable room = .error e := by
  constructor
  · intro h
    induction params with
    | nil => cases h
    | cons p params ih =>
      cases hp : p.writable room with
      | error e' =>
        rw [mapM_writable_cons_error hp] at h
        exact ⟨[], p, params, rfl, by simp, hp.trans (congrArg _ (Except.error.inj h))⟩
      | ok v =>
        obtain ⟨before, q, after, rfl, hbefore, hq⟩ := ih ((mapM_writable_cons_ok hp).mp h)
        exact ⟨p :: before, q, after, rfl, List.forall_mem_cons.mpr ⟨⟨v, hp⟩, hbefore⟩, hq⟩
  · rintro ⟨before, p, after, rfl, hbefore, hp⟩
    induction before with
    | nil => exact mapM_writable_cons_error hp
    | cons q before ih =>
      obtain ⟨⟨v, hv⟩, hrest⟩ := List.forall_mem_cons.mp hbefore
      exact (mapM_writable_cons_ok hv).mpr (ih hrest)

theorem mapM_writable_of_forall (h : ∀ p ∈ params, ∃ v, p.writable room = .ok v) :
    ∃ values, params.mapM (Param.writable room) = .ok values := by
  cases hvalues : params.mapM (Param.writable room) with
  | ok values => exact ⟨values, rfl⟩
  | error e =>
    obtain ⟨before, p, after, rfl, -, hp⟩ := mapM_writable_eq_error_iff.mp hvalues
    obtain ⟨v, hv⟩ := h p (List.mem_append_right _ List.mem_cons_self)
    cases hp.symm.trans hv

/-- Exactly the values that fit can be written. -/
theorem writable_iff {p : Param} :
    (∃ w, p.writable room = .ok w) ↔ ∃ v, p = .value v ∧ Json.Fits room v := by
  constructor
  · rintro ⟨w, hw⟩
    cases p with
    | foreign => cases hw
    | value v =>
      rw [Param.writable] at hw
      split at hw
      · cases hw
      · exact ⟨v, rfl, Json.excess?_eq_none_iff.mp ‹_›⟩
  · rintro ⟨v, rfl, hfits⟩
    refine ⟨v, ?_⟩
    rw [Param.writable, Json.excess?_eq_none_iff.mpr hfits]

/-- A parameter is refused for being nothing that JSON can hold, or for having too much in it. -/
theorem unwritten_cases {e : Failure}
    (h : params.mapM (Param.writable room) = .error e) :
    e = .unserializable ∨ ∃ excess, e = .unwritable excess := by
  obtain ⟨before, p, after, -, -, hp⟩ := mapM_writable_eq_error_iff.mp h
  cases p with
  | foreign => exact .inl (Except.error.inj hp).symm
  | value v =>
    rw [Param.writable] at hp
    split at hp
    · exact .inr ⟨_, (Except.error.inj hp).symm⟩
    · cases hp

theorem isOS_of_mapM_writable {e : Failure}
    (h : params.mapM (Param.writable room) = .error e) : e.isOS = false := by
  rcases unwritten_cases h with rfl | ⟨excess, rfl⟩
  · rfl
  · cases excess <;> rfl

/-! ### Values -/

variable {values : List Json}

theorem mapM_writable_values (h : ∀ v ∈ values, v.excess? room = none) :
    (values.map Param.value).mapM (Param.writable room) = .ok values := by
  induction values with
  | nil => rfl
  | cons v values ih =>
    obtain ⟨hv, hrest⟩ := List.forall_mem_cons.mp h
    have hwritable : (Param.value v).writable room = .ok v := by rw [Param.writable, hv]
    rw [List.map_cons, List.mapM_cons, hwritable, ih hrest]
    rfl

theorem writable_value_eq_ok {v w : Json} (h : (Param.value v).writable room = .ok w) : w = v := by
  rw [Param.writable] at h
  split at h
  · cases h
  · exact (Except.ok.inj h).symm

/-- What is written for values is these values. -/
theorem eq_of_mapM_writable {written : List Json}
    (h : (values.map Param.value).mapM (Param.writable room) = .ok written) : written = values := by
  induction values generalizing written with
  | nil => exact (Except.ok.inj h).symm
  | cons v values ih =>
    cases hv : (Param.value v).writable room with
    | error e => cases h.symm.trans (mapM_writable_cons_error hv)
    | ok w =>
      cases hrest : (values.map Param.value).mapM (Param.writable room) with
      | error e => cases h.symm.trans ((mapM_writable_cons_ok hv).mpr hrest)
      | ok rest =>
        rw [List.map_cons, List.mapM_cons, hv, hrest] at h
        rw [← Except.ok.inj h, writable_value_eq_ok hv, ih hrest]

/-- The request about values that can be written is the text of them. -/
theorem requestLine_values (method : Text) (h : ∀ v ∈ values, v.excess? room = none) :
    requestLine room method (values.map .value) =
      .ok (Json.encode Json.compact
        (.object [("method", .string method), ("params", .array values)])) := by
  rw [requestLine, mapM_writable_values h]
  rfl

theorem encode_of_requestLine {request : Text}
    (h : requestLine room method (values.map .value) = .ok request) :
    Json.encode Json.compact (.object [("method", .string method), ("params", .array values)]) =
      request := by
  obtain ⟨written, hwritten, rfl⟩ := requestLine_eq_ok h
  rw [eq_of_mapM_writable hwritten]

/-- Values that survive in an array can be written as parameters. -/
theorem excess?_of_plain (h : Json.Plain room (.array values)) :
    ∀ v ∈ values, v.excess? room = none := by
  intro v hv
  cases h with
  | array h => exact Json.excess?_eq_none_iff.mpr ((h v hv).mono (Nat.le_succ _)).fits

end Client

end SupervisorRpc
