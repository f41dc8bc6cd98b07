import SupervisorRpc.Proofs.Response
import SupervisorRpc.Proofs.Text.Replacing

/-! What is kept of a response that cannot be read.  The response is decoded twice: strictly, to read it,
and with replacement, to be shown.  The main statement says how the two go together for every byte
string, and what text an error about a response shows. -/

namespace SupervisorRpc

namespace Response

variable {limit : Nat} {method : Text} {raw : List UInt8}

theorem Reading.response_eq {e : RpcError} {trace : List Activity}
    (h : Reading limit method raw (.error (.rpc e)) trace) : e.response = Utf8.decodeReplacing raw := by
  cases h <;> rfl

theorem result_of_malformed {m : Utf8.Malformed} (h : Utf8.decode raw = .error m) :
    (read limit method raw ()).result =
      .error (.rpc (.unreadable (Utf8.decodeReplacing raw) (.bytes m))) := by
  have hdecode : decode limit raw = .error (.bytes m) := by
    rw [decode, h]
  rw [read_unreadable hdecode (by simp)]
  rfl

/-- Where strict decoding succeeds, replacing decoding gives the same text, which encodes to the bytes.
Where strict decoding reports a stretch of bytes, that is one to three bytes long and begins no code
point; the bytes before it decode strictly, and replacing decoding gives their text, one mark and then
what it makes of the bytes behind.  The text that an error about a response keeps is what strict decoding
gives with a mark for each stretch that it reports, and has no surrogate in it. -/
theorem decodings_agree (limit : Nat) (method : Text) (raw : List UInt8) :
    (match Utf8.decode raw with
      | .ok t => Utf8.decodeReplacing raw = t ∧ Utf8.encode t = raw
      | .error m =>
        let behind := m.position + m.bytes.length
        (1 ≤ m.bytes.length ∧ m.bytes.length ≤ 3 ∧
          m.bytes = (raw.take behind).drop m.position ∧
          ∀ c : CodePoint, c.isSurrogate = false →
            ¬Utf8.encodePoint c <+: raw.drop m.position) ∧
          (∃ t, Utf8.decode (raw.take m.position) = .ok t ∧
            Utf8.decodeReplacing raw =
              t ++ CodePoint.replacement :: Utf8.decodeReplacing (raw.drop behind)) ∧
          (read limit method raw ()).result =
            .error (.rpc (.unreadable (Utf8.decodeReplacing raw) (.bytes m)))) ∧
    ∀ e, (read limit method raw ()).result = .error (.rpc e) →
      (∀ t, Utf8.Marked raw t ↔ t = e.response) ∧ ∀ c ∈ e.response, c.isSurrogate = false := by
  constructor
  · cases h : Utf8.decode raw with
    | ok t => exact ⟨Utf8.decodeReplacing_of_decode h, (Utf8.eq_encode_of_decode h).1.symm⟩
    | error m =>
      obtain ⟨before, after, hfails⟩ := Utf8.fails_of_decode h
      refine ⟨⟨hfails.short.1, hfails.short.2, ?_, ?_⟩,
        ⟨before, hfails.decode_take, hfails.decodeReplacing_eq⟩, result_of_malformed h⟩
      · rw [List.drop_take, Nat.add_sub_cancel_left, hfails.drop_eq, List.take_left]
      · rw [hfails.drop_eq]
        exact hfails.stuck
  · intro e he
    have hreading := reading limit method raw
    rw [he] at hreading
    rw [hreading.response_eq]
    exact ⟨fun t => Utf8.marked_iff, (Utf8.marked_decodeReplacing raw).scalar⟩

end Response

end SupervisorRpc
