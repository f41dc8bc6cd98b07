import SupervisorRpc.Proofs.Acts
import SupervisorRpc.Proofs.Text.Encoding
import SupervisorRpc.Response

/-! The ways in which a response line is read.  `Response.Reading` lists them, with what the call gets
and what is logged and counted; `Response.read` always goes one of them.  `Response.Verdict` says
what they come to for a call: its ending and what is counted.  All of it is relative to `limit`, the
most arrays and objects that may be inside one another. -/

namespace SupervisorRpc

namespace Metric

/-- The activity of counting one more for a method. -/
def counted (counter method : Text) : Activity := .add counter (.int 1) (attributes method)

/-- The activity of counting an error for a method. -/
def errorCounted (type : ErrorType) (method : Text) : Activity :=
  .add errors (.int 1) (("type", .string type.name) :: attributes method)

end Metric

namespace Response

/-- The error that a response reports; null if it has none. -/
def errorOf (members : Json.Members) : Json := (members.get? "error").getD .null

/-- The result that a response gives; null if it has none. -/
def resultOf (members : Json.Members) : Json := (members.get? "result").getD .null

/-- A response line to a call of `method` is read with a result and activities. -/
inductive Reading (limit : Nat) (method : Text) (raw : List UInt8) :
    Except Failure Json → List Activity → Prop
  | tooDeep {nesting : Json.Nesting} (h : decode limit raw = .error (.json (.depth nesting))) :
      Reading limit method raw (.error (.tooDeep nesting)) []
  | unreadable {cause : Unreadable} (h : decode limit raw = .error cause)
      (hcause : ∀ nesting, cause ≠ .json (.depth nesting)) :
      Reading limit method raw (.error (.rpc (.unreadable (Utf8.decodeReplacing raw) cause)))
        [.log .error logger
          (text "Unparseable response to " ++ method ++ text ": " ++
            shown (Utf8.decodeReplacing raw)),
          Metric.errorCounted .parse method]
  | accepted {members : Json.Members} (h : decode limit raw = .ok (.object members))
      (herror : (errorOf members).isNothing = true) :
      Reading limit method raw (.ok (resultOf members)) [Metric.counted Metric.success method]
  | reported {members : Json.Members} (h : decode limit raw = .ok (.object members))
      (herror : (errorOf members).isNothing = false) :
      Reading limit method raw
        (.error (.rpc (.reported (Utf8.decodeReplacing raw) (errorOf members))))
        [.log .error logger
          (text "RPC call " ++ method ++ text " failed: " ++ RpcError.describe (errorOf members)),
          Metric.errorCounted .rpc method]
  | notObject {value : Json} (h : decode limit raw = .ok value)
      (hvalue : ∀ members, value ≠ .object members) :
      Reading limit method raw (.error (.rpc (.notObject (Utf8.decodeReplacing raw))))
        [Metric.errorCounted .parse method]

theorem decode_encode {limit : Nat} {t : Text} (hplain : ∀ c ∈ t, c.isSurrogate = false)
    {v : Json} (h : Json.decode t limit = .ok v) : decode limit (Utf8.encode t) = .ok v := by
  simp only [decode, Utf8.decode_encode hplain, h]

variable {limit : Nat} {method : Text} {raw : List UInt8}

theorem read_unreadable {cause : Unreadable} (h : decode limit raw = .error cause)
    (hcause : ∀ nesting, cause ≠ .json (.depth nesting)) {σ : Type} :
    (read limit method raw : Act σ Json) = (do
      Act.log .error logger
        (text "Unparseable response to " ++ method ++ text ": " ++
          shown (Utf8.decodeReplacing raw))
      refuse .parse method (.unreadable (Utf8.decodeReplacing raw) cause)) := by
  rw [read, h]
  cases cause with
  | bytes m => rfl
  | json flaw =>
    cases flaw with
    | depth nesting => exact absurd rfl (hcause nesting)
    | _ => rfl

theorem read_object {members : Json.Members} (h : decode limit raw = .ok (.object members))
    {σ : Type} :
    (read limit method raw : Act σ Json) =
      if (errorOf members).isNothing then (do
        Metric.count Metric.success method
        return resultOf members)
      else (do
        Act.log .error logger
          (text "RPC call " ++ method ++ text " failed: " ++ RpcError.describe (errorOf members))
        refuse .rpc method (.reported (Utf8.decodeReplacing raw) (errorOf members))) := by
  rw [read, h]
  rfl

theorem read_notObject {value : Json} (h : decode limit raw = .ok value)
    (hvalue : ∀ members, value ≠ .object members) {σ : Type} :
    (read limit method raw : Act σ Json) =
      refuse .parse method (.notObject (Utf8.decodeReplacing raw)) := by
  rw [read, h]
  cases value with
  | object members => exact absurd rfl (hvalue members)
  | _ => rfl

theorem reading_run (limit : Nat) (method : Text) (raw : List UInt8) :
    ∃ ended trace, Reading limit method raw ended trace ∧
      ∀ (σ : Type) (s : σ), read limit method raw s = ⟨ended, s, trace⟩ := by
  rcases hdecode : decode limit raw with cause | value
  · by_cases hdeep : ∃ nesting, cause = .json (.depth nesting)
    · obtain ⟨nesting, rfl⟩ := hdeep
      refine ⟨_, _, .tooDeep hdecode, fun σ s => ?_⟩
      rw [read, hdecode]
      rfl
    · have hcause : ∀ nesting, cause ≠ .json (.depth nesting) := fun n h => hdeep ⟨n, h⟩
      refine ⟨_, _, .unreadable hdecode hcause, fun σ s => ?_⟩
      rw [read_unreadable hdecode hcause]
      rfl
  · by_cases hobject : ∃ members, value = .object members
    · obtain ⟨members, rfl⟩ := hobject
      cases herror : (errorOf members).isNothing with
      | true =>
        refine ⟨_, _, .accepted hdecode herror, fun σ s => ?_⟩
        rw [read_object hdecode, if_pos herror]
        rfl
      | false =>
        refine ⟨_, _, .reported hdecode herror, fun σ s => ?_⟩
        rw [read_object hdecode, if_neg (by simp [herror])]
        rfl
    · have hvalue : ∀ members, value ≠ .object members := fun m h => hobject ⟨m, h⟩
      refine ⟨_, _, .notObject hdecode hvalue, fun σ s => ?_⟩
      rw [read_notObject hdecode hvalue]
      rfl

/-- The state has no part in the reading of a response. -/
theorem read_run (limit : Nat) (method : Text) (raw : List UInt8) {σ : Type} (s : σ) :
    read limit method raw s =
      ⟨(read limit method raw ()).result, s, (read limit method raw ()).trace⟩ := by
  obtain ⟨ended, trace, -, hrun⟩ := reading_run limit method raw
  rw [hrun σ s, hrun Unit ()]

/-- A response is read in one of the ways of `Reading`. -/
theorem reading (limit : Nat) (method : Text) (raw : List UInt8) :
    Reading limit method raw (read limit method raw ()).result
      (read limit method raw ()).trace := by
  obtain ⟨ended, trace, hreading, hrun⟩ := reading_run limit method raw
  rw [hrun Unit ()]
  exact hreading

/-- The verdict on a response line that is not too deep: how the call ends, and what is counted. -/
inductive Verdict (limit : Nat) (method : Text) (line : List UInt8) :
    Except Failure Json → Activity → Prop
  | accepted (value : Json) :
      Verdict limit method line (.ok value) (Metric.counted Metric.success method)
  | unparsed {e : RpcError} (he : e.error? = none)
      (hline : ∀ members, decode limit line ≠ .ok (.object members)) :
      Verdict limit method line (.error (.rpc e)) (Metric.errorCounted .parse method)
  | reported {e : RpcError} {members : Json.Members} (he : e.error? = some (errorOf members))
      (hline : decode limit line = .ok (.object members))
      (herror : (errorOf members).isNothing = false) :
      Verdict limit method line (.error (.rpc e)) (Metric.errorCounted .rpc method)

theorem Reading.verdict {limit : Nat} {method : Text} {line : List UInt8}
    {ended : Except Failure Json} {trace : List Activity} (h : Reading limit method line ended trace)
    (hshallow : ∀ nesting, decode limit line ≠ .error (.json (.depth nesting))) :
    ∃ counted, Verdict limit method line ended counted ∧ measurements trace = [counted] := by
  cases h with
  | tooDeep hdecode => exact absurd hdecode (hshallow _)
  | unreadable hdecode =>
    refine ⟨_, .unparsed rfl ?_, rfl⟩
    intro members hmembers
    rw [hdecode] at hmembers
    cases hmembers
  | accepted => exact ⟨_, .accepted _, rfl⟩
  | reported hdecode herror => exact ⟨_, .reported rfl hdecode herror, rfl⟩
  | notObject hdecode hvalue =>
    refine ⟨_, .unparsed rfl ?_, rfl⟩
    intro members hmembers
    rw [hdecode] at hmembers
    exact hvalue members (Except.ok.inj hmembers)

end Response

end SupervisorRpc
