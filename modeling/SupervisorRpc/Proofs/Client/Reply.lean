import SupervisorRpc.Proofs.Client.Stages
import SupervisorRpc.Proofs.Json.Lines
import SupervisorRpc.Proofs.Json.Members
import SupervisorRpc.Proofs.Json.Reading
import SupervisorRpc.Proofs.Json.Writing

/-! Whatever a daemon writes as a response object reaches the caller: the value of the last `result`
member, unless the last `error` member says more than nothing. -/

namespace SupervisorRpc

namespace Json

variable {depth : Nat} {members : List (Text × Json)} {t : Text}

/-- A line that writes an object is read as that object. -/
theorem LineWritten.decode (h : LineWritten depth members t) :
    Response.decode (depth + 1) (Utf8.encode t) = .ok (.object (Members.ofList members)) := by
  apply Response.decode_encode h.plain
  apply decode_of_written
  cases h.written with
  | mk hbefore hobject hafter =>
    have hlayer : Written (depth + 1) (.object (Members.ofList members)) _ :=
      Layer.object hobject
    exact .mk hbefore hlayer hafter

/-- A written object reports no error if its last error is none or counts as nothing. -/
theorem LineWritten.error_iff (h : LineWritten depth members t) :
    (Response.errorOf (Members.ofList members)).isNothing = true ↔
      ∀ error, Members.last? members "error" = some error → Falsy error := by
  rw [Response.errorOf, Members.get?_ofList]
  cases herror : Members.last? members "error" with
  | none => simp [isNothing]
  | some error =>
    have hfloat : ∀ x, error ≠ .number (.float x) := by
      intro x
      cases h.written with
      | mk _ hobject _ =>
        obtain ⟨u, hu⟩ := hobject.value_written _ (Members.mem_of_last?_eq_some herror)
        exact hu.ne_float x
    rw [Option.getD_some, isNothing_iff_falsy hfloat]
    simp

end Json

namespace World

/-- A world without faults, in which the daemon sends the bytes and then anything. -/
structure Delivers (w : World) (bytes : List UInt8) : Prop where
  connect : w.connectFault = none
  send : w.sendFault = none
  reader : w.readerFault = none
  socket : w.socketFault = none
  items : ∃ rest, w.items = bytes.map .byte ++ rest

end World

namespace Client

open Json

variable {world : World} {params : List Param} {members : List (Text × Json)} {t : Text}

theorem received_of_delivers {line : List UInt8} (hline : newline ∉ line)
    (h : world.Delivers (line ++ [newline]))
    (hparams : ∀ p ∈ params, ∃ v, p.writable world.room = .ok v) :
    received world params = .ok (stripReturns line) := by
  obtain ⟨values, hvalues⟩ := mapM_writable_of_forall hparams
  obtain ⟨rest, hitems⟩ := h.items
  have hread : Incoming.readItems [] world.items = (.line line, rest) := by
    rw [hitems, List.map_append, List.append_assoc]
    exact Incoming.readItems_line hline rest
  rw [received, h.connect, hvalues, h.send, hread]
  rfl

/-- A response object on a line of its own, with or without a carriage return, reaches the caller
through any chunks. -/
theorem call_reply (endpoint : Endpoint) (clock : SystemClock) (name : Text) {ending : List UInt8}
    (hwritten : LineWritten world.room members t)
    (hending : ending = [newline] ∨ ending = [carriageReturn, newline])
    (hdelivers : world.Delivers (Utf8.encode t ++ ending))
    (hparams : ∀ p ∈ params, ∃ v, p.writable world.room = .ok v) :
    let result := (call endpoint world clock name params ()).result
    ((∀ error, Members.last? members "error" = some error → Falsy error) →
      result = .ok ((Members.last? members "result").getD .null)) ∧
    ∀ error, Members.last? members "error" = some error → ¬Falsy error →
      ∃ e, result = .error (.rpc e) ∧ e.error? = some error := by
  intro result
  -- A carriage return before the newline is one more blank at the end of the line.
  obtain ⟨line, hline, hlinewritten⟩ : ∃ line, Utf8.encode t ++ ending = line ++ [newline] ∧
      ∃ u, LineWritten world.room members u ∧ line = Utf8.encode u := by
    rcases hending with rfl | rfl
    · exact ⟨_, rfl, t, hwritten, rfl⟩
    · refine ⟨Utf8.encode t ++ [carriageReturn], by simp, _, hwritten.append_return, ?_⟩
      rw [Utf8.encode_append]
      rfl
  obtain ⟨u, hu, rfl⟩ := hlinewritten
  obtain ⟨v, hv, hstripped⟩ := hu.stripped
  rw [hline] at hdelivers
  have hresult : result =
      (Response.read world.limit (Method.wireName name) (Utf8.encode v) ()).result := by
    have hreceived := received_of_delivers (Utf8.newline_notMem_encode hu.oneLine) hdelivers hparams
    have hended := call_result endpoint world clock name params hdelivers.reader hdelivers.socket
    rw [concluded, hreceived, hstripped] at hended
    exact hended
  rw [hresult, Response.read_object hv.decode]
  constructor
  · intro herror
    rw [if_pos (hv.error_iff.mpr herror), Response.resultOf, Members.get?_ofList]
    rfl
  · intro error herror htruthy
    have hnot : ¬(Response.errorOf (Members.ofList members)).isNothing = true := fun hnothing =>
      htruthy (hv.error_iff.mp hnothing error herror)
    rw [if_neg hnot]
    refine ⟨_, rfl, ?_⟩
    rw [RpcError.error?, Response.errorOf, Members.get?_ofList, herror]
    rfl

/-- An error that is taken back by a later member of the same name. -/
theorem call_reply_repeated :
    let line := text "\x7b\"error\":1, \"result\":7,\"error\":0\r\x7d"
    let world : World :=
      ⟨none, none, [.data ((Utf8.encode line).take 9),
        .data ((Utf8.encode line).drop 9 ++ [0x0D, 0x0A, 0x22])], none, none, 984⟩
    let clock : SystemClock := [0.25, 0.5]
    (call ⟨"/s", .unix "/s"⟩ world clock "status" [] ()).result = .ok (.number (.int 7)) := by
  intro line world clock
  have member : ∀ (key : Text) (n : Nat), key.Unpaired → (Text.ofNat n).length ≤ 4300 →
      MemberWritten (Written world.room) (key, .number (.int n))
        (encodeString key ++ [] ++ point ':' :: [] ++ Text.ofNat n) := fun key n hkey hn =>
    .mk (stringWritten_encodeString hkey) blanks_nil blanks_nil
      ((ScalarWritten.integer (.plain hn)).written _)
  have hblank : Blanks [point ' '] := by simp [Blanks]
  have hreturn : Blanks [point '\r'] := by simp [Blanks]
  have first := Padded.of (member "error" 1 (by decide) (by decide))
  have second := Padded.mk hblank (member "result" 7 (by decide) (by decide)) blanks_nil
  have third := Padded.mk blanks_nil (member "error" 0 (by decide) (by decide)) hreturn
  have hobject := ObjectWritten.mk (.some (.cons first (.cons second (.one third))))
  have hwritten : LineWritten world.room _ line := ⟨Padded.of hobject, by decide, by decide⟩
  have hdelivers : world.Delivers (Utf8.encode line ++ [carriageReturn, newline]) :=
    ⟨rfl, rfl, rfl, rfl, [.byte 0x22], by decide⟩
  refine (call_reply ⟨"/s", .unix "/s"⟩ clock "status" hwritten (.inr rfl) hdelivers (by simp)).1 ?_
  intro error herror
  obtain rfl : .number (.int (0 : Nat)) = error := Option.some.inj herror
  exact .zero

end Client

end SupervisorRpc
