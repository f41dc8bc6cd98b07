import SupervisorRpc.Proofs.Boundary
import SupervisorRpc.Proofs.Json.Excess
import SupervisorRpc.Proofs.Json.Image
import SupervisorRpc.Proofs.Json.Printable
import SupervisorRpc.Proofs.Json.Reading

/-! What is kept of an error that the daemon reports: the error itself, a message that is the error in
words or decodes to it, and the response that it came in. -/

namespace SupervisorRpc

theorem Json.decode_encode {limit : Nat} {s : Spacing} (hreadable : s.Readable) {v : Json}
    (h : Plain limit v) : decode (encode s v) limit = .ok v :=
  decode_of_written (Padded.of (written_encode hreadable h))

theorem RpcError.describe_of_not_string {error : Json} (h : ∀ t, error ≠ .string t) :
    describe error = Json.encode Json.spaced error := by
  cases error with
  | string t => exact absurd rfl (h t)
  | _ => rfl

namespace Response

/-- A value that is written on a line and encoded is read back from the bytes. -/
theorem decode_encode_value {limit : Nat} {s : Json.Spacing} (hprintable : s.Printable)
    (hreadable : s.Readable) {v : Json} (h : Json.Plain limit v) :
    decode limit (Utf8.encode (Json.encode s v)) = .ok v :=
  decode_encode (Json.printable_encode hprintable v).not_isSurrogate (Json.decode_encode hreadable h)

variable {limit : Nat} {method : Text} {raw : List UInt8}

theorem decoded_of_decode {v : Json} (h : decode limit raw = .ok v) : Json.Decoded limit v := by
  obtain ⟨t, ht, hv⟩ := decode_ok h
  exact Json.decoded_of_decode (Utf8.eq_encode_of_decode ht).2 hv

theorem decoded_get? {depth : Nat} {members : Json.Members}
    (h : Json.Decoded (depth + 1) (.object members)) (key : Text) :
    Json.Decoded depth ((members.get? key).getD .null) := by
  cases hkey : members.get? key with
  | none => exact .scalar .null
  | some v =>
    have hmem := List.lookup_eq_some_iff.mp hkey
    obtain ⟨before, after, hmembers, -⟩ := hmem
    exact h.member (m := (key, v)) (by simp [hmembers])

/-- What stands for a key of a response, with no floating-point number in it, is plain. -/
theorem plain_get? {members : Json.Members} (h : decode limit raw = .ok (.object members))
    {key : Text} (hv : ((members.get? key).getD .null).Integral) :
    Json.Plain limit ((members.get? key).getD .null) := by
  have hobject := decoded_of_decode h
  cases limit with
  | zero => nomatch hobject
  | succ depth => exact ((decoded_get? hobject key).plain hv).mono (Nat.le_succ _)

/-- What stands for a key of a response can be written where the response could be read, since it is one
object less deep: a message about an error and the printing of a result never fail. -/
theorem excess?_get? {room : Nat} {members : Json.Members}
    (h : decode (room + 1) raw = .ok (.object members)) (key : Text) :
    ((members.get? key).getD .null).excess? room = none :=
  Json.excess?_eq_none_iff.mpr (decoded_get? (decoded_of_decode h) key).fits

/-- Where a response reports an error with no floating-point number in it, the error counts as
something and is plain: it holds no surrogate pair in two halves.  The message is the error if that is
a string, and else ASCII text that decodes to the error; and the response that is kept encodes to the
bytes that came. -/
theorem report_faithful {e : RpcError} {error : Json}
    (h : (read limit method raw ()).result = .error (.rpc e)) (herror : e.error? = some error)
    (hintegral : error.Integral) :
    error.isNothing = false ∧ Json.Plain limit error ∧
      (∀ t, error = .string t → e.message = t) ∧
      ((∀ t, error ≠ .string t) → (∀ c ∈ e.message, c.isAscii = true) ∧
        Json.decode e.message limit = .ok error ∧
          decode limit (Utf8.encode e.message) = .ok error) ∧
      Utf8.encode e.response = raw ∧ ∀ c ∈ e.response, c.isSurrogate = false := by
  obtain ⟨ended, trace, hreading, hrun⟩ := reading_run limit method raw
  rw [hrun Unit ()] at h
  obtain rfl : ended = .error (.rpc e) := h
  cases hreading with
  | unreadable | notObject => cases herror
  | @reported members hdecode hsome =>
    obtain rfl : errorOf members = error := Option.some.inj herror
    have hplain := plain_get? hdecode hintegral
    obtain ⟨line, hline, -⟩ := decode_ok hdecode
    obtain ⟨hbytes, hscalar⟩ := Utf8.eq_encode_of_decode hline
    refine ⟨hsome, hplain, ?_, ?_, ?_⟩
    · intro t ht
      rw [RpcError.message, ht]
      rfl
    · intro hstring
      rw [RpcError.message, RpcError.describe_of_not_string hstring]
      exact ⟨(Json.printable_encode Json.spaced_printable _).isAscii,
        Json.decode_encode Json.spaced_readable hplain,
        decode_encode_value Json.spaced_printable Json.spaced_readable hplain⟩
    · rw [RpcError.response, Utf8.decodeReplacing_of_decode hline]
      exact ⟨hbytes.symm, hscalar⟩

/-- An error with a key that is written twice, half of a surrogate pair and an empty object: the
message writes the key once, with its last value at its first place. -/
theorem report_faithful_nested :
    let line : Text :=
      "\x7b\"error\":\x7b\"b\":[1,[]],\"a\":\"\\ud800\",\"b\":[-2,\x7b\x7d]\x7d,\"result\":2.5\x7d"
    let error : Json := .object
      [("b", .array [.number (.int (-2)), .object []]), ("a", .string [CodePoint.ofNat 0xD800])]
    let e : RpcError := .reported line error
    (read 4 "API.Status" (Utf8.encode line) ()).result = .error (.rpc e) ∧
      e.message = text "\x7b\"b\": [-2, \x7b\x7d], \"a\": \"\\ud800\"\x7d" ∧
      Json.decode e.message 4 = .ok error ∧ Utf8.encode e.response = Utf8.encode line := by
  intro line error e
  have hended : (read 4 "API.Status" (Utf8.encode line) ()).result = .error (.rpc e) := by rfl
  have hintegral : error.Integral := by
    refine .object fun m hm => ?_
    simp only [List.mem_cons, List.not_mem_nil, or_false] at hm
    rcases hm with rfl | rfl
    · refine .array fun v hv => ?_
      simp only [List.mem_cons, List.not_mem_nil, or_false] at hv
      rcases hv with rfl | rfl
      · exact .integer _
      · exact .object nofun
    · exact .string _
  obtain ⟨-, -, -, hmessage, hresponse, -⟩ := report_faithful hended rfl hintegral
  exact ⟨hended, by decide +kernel, (hmessage nofun).2.1, hresponse⟩

end Response

end SupervisorRpc
