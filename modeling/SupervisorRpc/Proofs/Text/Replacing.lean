import SupervisorRpc.Proofs.Text.Decoding

/-! Replacing decoding against strict decoding.  Where strict decoding reports a stretch of bytes, the
bytes before it are encoded text, and replacing decoding gives that text, one mark for the stretch and
what it makes of the bytes behind it.  So replacing decoding is strict decoding taken up again behind
each stretch that is reported, which is what `Utf8.Marked` says without a word about segments. -/

namespace SupervisorRpc

namespace Utf8

variable {bytes : List UInt8} {t u : Text} {m : Malformed}

/-! ### Ill-formed stretches -/

/-- A code point that breaks off leaves what was taken of it, which is less than all of it. -/
theorem follow_eq_illFormed {taken : List UInt8} {bits low high following : Nat}
    {rest : List UInt8} {reason : Reason}
    (h : follow taken bits low high following rest = .illFormed bytes reason) :
    ∃ more after, rest = more ++ after ∧ bytes = taken ++ more ∧ more.length < following := by
  induction following generalizing taken bits low high rest with
  | zero =>
    rw [follow] at h
    cases h
  | succ following ih =>
    cases rest with
    | nil =>
      obtain ⟨rfl, -⟩ := Segment.illFormed.inj h
      exact ⟨[], [], rfl, (List.append_nil _).symm, Nat.succ_pos following⟩
    | cons b rest =>
      rw [follow] at h
      split at h
      · obtain ⟨more, after, rfl, rfl, hlength⟩ := ih h
        exact ⟨b :: more, after, rfl, by simp, Nat.succ_lt_succ hlength⟩
      · obtain ⟨rfl, -⟩ := Segment.illFormed.inj h
        exact ⟨[], b :: rest, rfl, (List.append_nil _).symm, Nat.succ_pos following⟩

theorem FirstByte.following_le {n : Nat} {l : Lead} (h : FirstByte n l) : l.following ≤ 3 := by
  cases h <;> simp

/-- An ill-formed stretch is one to three bytes at the front. -/
theorem front_eq_illFormed {b : UInt8} {rest : List UInt8} {reason : Reason}
    (h : front b rest = .illFormed bytes reason) :
    ∃ more after, rest = more ++ after ∧ bytes = b :: more ∧ more.length ≤ 2 := by
  rw [front] at h
  cases hlead : lead? b with
  | none =>
    rw [hlead] at h
    obtain ⟨rfl, -⟩ := Segment.illFormed.inj h
    exact ⟨[], rest, rfl, rfl, Nat.zero_le 2⟩
  | some l =>
    rw [hlead] at h
    obtain ⟨more, after, rfl, rfl, hlength⟩ := follow_eq_illFormed h
    have hfollowing := (firstByte_of_lead? hlead).following_le
    exact ⟨more, after, rfl, rfl, by omega⟩

/-- What is reported is the first ill-formed segment, at the place where its bytes begin. -/
theorem scalars_eq_error {decoded : Text} {position : Nat} {found : List Segment}
    (h : scalars decoded position found = .error m) :
    ∃ t rest, found = t.map .scalar ++ .illFormed m.bytes m.reason :: rest ∧
      m.position = position + (encode t).length := by
  induction found generalizing decoded position with
  | nil => cases h
  | cons segment found ih =>
    cases segment with
    | scalar c =>
      obtain ⟨t, rest, rfl, hposition⟩ := ih h
      refine ⟨c :: t, rest, rfl, ?_⟩
      rw [hposition, encode, encode, List.flatMap_cons, List.length_append, Nat.add_assoc]
    | illFormed bytes reason =>
      obtain rfl := Except.error.inj h
      exact ⟨[], found, rfl, rfl⟩

/-- Bytes are taken apart at the stretch that strict decoding reports: the encoding of `before`, the
stretch, which is short and begins no code point, and the bytes `after` it. -/
structure Fails (bytes : List UInt8) (m : Malformed) (before : Text) (after : List UInt8) :
    Prop where
  bytes_eq : bytes = encode before ++ (m.bytes ++ after)
  position : m.position = (encode before).length
  scalar : before.Scalar
  short : 1 ≤ m.bytes.length ∧ m.bytes.length ≤ 3
  stuck : ∀ c : CodePoint, c.isSurrogate = false → ¬encodePoint c <+: m.bytes ++ after
  segments_eq : segments bytes =
    before.map .scalar ++ .illFormed m.bytes m.reason :: segments after

theorem fails_of_decode (h : decode bytes = .error m) : ∃ before after, Fails bytes m before after := by
  obtain ⟨before, rest, hsegments, hposition⟩ := scalars_eq_error h
  obtain ⟨behind, rfl, hscalar, hbehind⟩ := eq_encode_append_of_segments hsegments
  cases behind with
  | nil => cases hbehind
  | cons b behind =>
    have hfront : front b behind = .illFormed m.bytes m.reason := by
      rw [segments, segmentsFrom, segmentsFrom_found] at hbehind
      simpa using congrArg List.head? hbehind
    obtain ⟨more, after, rfl, hbytes, hlength⟩ := front_eq_illFormed hfront
    have hstretch : b :: (more ++ after) = m.bytes ++ after := by
      rw [hbytes, List.cons_append]
    have hsplit : segments (b :: (more ++ after)) =
        .illFormed m.bytes m.reason :: segments after := by
      rw [segments_cons (by rw [hfront, Segment.bytes, hbytes]), hfront]
    refine ⟨before, after, ?_, ?_, hscalar, ?_, ?_, ?_⟩
    · rw [hstretch]
    · rw [hposition, Nat.zero_add]
    · rw [hbytes, List.length_cons]
      omega
    · rintro c hc ⟨rest, hrest⟩
      obtain ⟨first, others, hpoint, hread⟩ := front_encodePoint hc
      rw [← hstretch, hpoint, List.cons_append] at hrest
      obtain ⟨rfl, hothers⟩ := List.cons.inj hrest
      have hscalar := hread rest
      rw [hothers, hfront] at hscalar
      cases hscalar
    · rw [segments_encode_append hscalar, hsplit]

namespace Fails

variable {before : Text} {after : List UInt8}

theorem take_eq (h : Fails bytes m before after) : bytes.take m.position = encode before := by
  rw [h.bytes_eq, h.position, List.take_left]

theorem drop_eq (h : Fails bytes m before after) : bytes.drop m.position = m.bytes ++ after := by
  rw [h.bytes_eq, h.position, List.drop_left]

theorem drop_behind (h : Fails bytes m before after) :
    bytes.drop (m.position + m.bytes.length) = after := by
  rw [← List.drop_drop, h.drop_eq, List.drop_left]

theorem decode_take (h : Fails bytes m before after) :
    decode (bytes.take m.position) = .ok before := by
  rw [h.take_eq, decode_encode h.scalar]

/-- Replacing decoding keeps the text before the stretch, marks the stretch and goes on behind it. -/
theorem decodeReplacing_eq (h : Fails bytes m before after) :
    decodeReplacing bytes =
      before ++ CodePoint.replacement ::
        decodeReplacing (bytes.drop (m.position + m.bytes.length)) := by
  have hbefore : (before.map Segment.scalar).map Segment.replaced = before := by
    rw [List.map_map]
    exact List.map_id _
  rw [h.drop_behind, decodeReplacing, h.segments_eq, List.map_append, hbefore]
  rfl

end Fails

/-! ### Marks -/

/-- A text is strict decoding's, with a mark in place of each stretch that it reports when it is taken up
again behind the one before. -/
inductive Marked : List UInt8 → Text → Prop
  | decoded {bytes : List UInt8} {t : Text} (h : decode bytes = .ok t) : Marked bytes t
  | reported {bytes : List UInt8} {m : Malformed} {t u : Text} (h : decode bytes = .error m)
      (hbefore : decode (bytes.take m.position) = .ok t)
      (hbehind : Marked (bytes.drop (m.position + m.bytes.length)) u) :
      Marked bytes (t ++ CodePoint.replacement :: u)

theorem Marked.eq_decodeReplacing (h : Marked bytes t) : t = decodeReplacing bytes := by
  induction h with
  | decoded h => exact (decodeReplacing_of_decode h).symm
  | reported h hbefore _ ih =>
    obtain ⟨before, after, hfails⟩ := fails_of_decode h
    rw [hfails.decode_take] at hbefore
    rw [hfails.decodeReplacing_eq, Except.ok.inj hbefore, ih]

theorem marked_decodeReplacing (bytes : List UInt8) : Marked bytes (decodeReplacing bytes) := by
  -- The induction is on the length: the bytes behind a stretch are fewer.
  induction hlength : bytes.length using Nat.strongRecOn generalizing bytes with
  | ind n ih =>
    cases h : decode bytes with
    | ok t =>
      rw [decodeReplacing_of_decode h]
      exact .decoded h
    | error m =>
      obtain ⟨before, after, hfails⟩ := fails_of_decode h
      have hfewer : (bytes.drop (m.position + m.bytes.length)).length < n := by
        have hlong := congrArg List.length hfails.bytes_eq
        have hshort := hfails.short.1
        rw [List.length_append, List.length_append, ← hfails.position] at hlong
        rw [List.length_drop]
        omega
      rw [hfails.decodeReplacing_eq]
      exact .reported h hfails.decode_take (ih _ hfewer _ rfl)

/-- Replacing decoding is strict decoding with marks. -/
theorem marked_iff : Marked bytes t ↔ t = decodeReplacing bytes :=
  ⟨Marked.eq_decodeReplacing, fun h => h ▸ marked_decodeReplacing bytes⟩

theorem Marked.scalar (h : Marked bytes t) : t.Scalar := by
  induction h with
  | decoded h => exact (eq_encode_of_decode h).2
  | reported _ hbefore _ ih =>
    intro c hc
    rcases List.mem_append.mp hc with hc | hc
    · exact (eq_encode_of_decode hbefore).2 c hc
    rcases List.mem_cons.mp hc with rfl | hc
    · decide
    · exact ih c hc

/-- Two bytes of three, then the bytes of a surrogate, none of which goes with another. -/
example : decodeReplacing [0x61, 0xE2, 0x82, 0xED, 0xA0, 0x80, 0xC3, 0xA9] =
    text "a\uFFFD\uFFFD\uFFFD\uFFFDé" := by
  decide

end Utf8

end SupervisorRpc
