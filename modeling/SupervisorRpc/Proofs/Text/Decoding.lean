import SupervisorRpc.Proofs.Text.Encoding

/-! What strict decoding accepts.  Bytes that decode to a text are the encoding of that text, and a text
with more bytes after it decodes to itself and what those bytes decode to. -/

namespace SupervisorRpc

namespace Utf8

theorem byte_toNat (b : UInt8) : byte b.toNat = b := UInt8.toNat_inj.mp (toNat_byte b.toNat_lt)

/-- The first bytes of code points, by how many bytes follow: the bits that they carry, and what the
bounds on the second byte leave out. -/
inductive FirstByte (n : Nat) : Lead → Prop
  | one {low high : Nat} (h : n < 0x80) : FirstByte n ⟨n, 0, low, high⟩
  | two {bits : Nat} (h : n = 0xC0 + bits) (hlow : 2 ≤ bits) (hhigh : bits < 0x20) :
      FirstByte n ⟨bits, 1, 0x80, 0xBF⟩
  | three {bits low high : Nat} (h : n = 0xE0 + bits) (hbits : bits < 0x10) (hlow : 0x80 ≤ low)
      (hhigh : high ≤ 0xBF) (hshort : bits = 0 → 0xA0 ≤ low) (hsurrogate : bits = 0xD → high ≤ 0x9F) :
      FirstByte n ⟨bits, 2, low, high⟩
  | four {bits low high : Nat} (h : n = 0xF0 + bits) (hbits : bits ≤ 4) (hlow : 0x80 ≤ low)
      (hhigh : high ≤ 0xBF) (hshort : bits = 0 → 0x90 ≤ low) (hlast : bits = 4 → high ≤ 0x8F) :
      FirstByte n ⟨bits, 3, low, high⟩

theorem firstByte_of_lead? {b : UInt8} {l : Lead} (h : lead? b = some l) : FirstByte b.toNat l := by
  have hb := b.toNat_lt
  simp only [lead?] at h
  split at h
  · next h1 => exact Option.some.inj h ▸ .one h1
  split at h
  · cases h
  split at h
  · exact Option.some.inj h ▸ .two (by omega) (by omega) (by omega)
  split at h
  · exact Option.some.inj h ▸ .three (by omega) (by omega) (by omega) (by omega) (by omega) (by omega)
  split at h
  · exact Option.some.inj h ▸ .three (by omega) (by omega) (by omega) (by omega) (by omega) (by omega)
  split at h
  · exact Option.some.inj h ▸ .three (by omega) (by omega) (by omega) (by omega) (by omega) (by omega)
  split at h
  · exact Option.some.inj h ▸ .four (by omega) (by omega) (by omega) (by omega) (by omega) (by omega)
  split at h
  · exact Option.some.inj h ▸ .four (by omega) (by omega) (by omega) (by omega) (by omega) (by omega)
  split at h
  · exact Option.some.inj h ▸ .four (by omega) (by omega) (by omega) (by omega) (by omega) (by omega)
  · cases h

/-- A code point that goes on has one more byte, which lies between the bounds. -/
theorem follow_eq_scalar {taken : List UInt8} {bits low high following : Nat} {rest : List UInt8}
    {c : CodePoint} (h : follow taken bits low high (following + 1) rest = .scalar c) :
    ∃ b after, rest = b :: after ∧ low ≤ b.toNat ∧ b.toNat ≤ high ∧
      follow (taken ++ [b]) (bits * 0x40 + (b.toNat - 0x80)) 0x80 0xBF following after =
        .scalar c := by
  cases rest with
  | nil => cases h
  | cons b after =>
    rw [follow] at h
    split at h
    · next hbounds => exact ⟨b, after, rfl, hbounds.1, hbounds.2, h⟩
    · cases h

theorem follow_zero_eq_scalar {taken : List UInt8} {bits low high : Nat} {rest : List UInt8}
    {c : CodePoint} (hbits : bits < 0x110000)
    (h : follow taken bits low high 0 rest = .scalar c) : c.val = bits := by
  rw [follow] at h
  rw [← Segment.scalar.inj h, CodePoint.val_ofNat hbits]

/-- A code point at the front of bytes is no surrogate, and its bytes stand there. -/
theorem front_eq_scalar {b : UInt8} {rest : List UInt8} {c : CodePoint}
    (h : front b rest = .scalar c) :
    c.isSurrogate = false ∧ ∃ more after, rest = more ++ after ∧ encodePoint c = b :: more := by
  have plain : ¬(0xD800 ≤ c.val ∧ c.val ≤ 0xDFFF) → c.isSurrogate = false := by
    intro hc
    rw [← Bool.not_eq_true, CodePoint.isSurrogate_iff]
    exact hc
  rw [front] at h
  -- The first byte says how many bytes follow, each of which gives six more bits.
  cases hlead : lead? b with
  | none =>
    rw [hlead] at h
    cases h
  | some l =>
    rw [hlead] at h
    cases firstByte_of_lead? hlead with
    | one hb =>
      dsimp only at h
      have hc := follow_zero_eq_scalar (by omega) h
      refine ⟨plain (by omega), [], rest, rfl, ?_⟩
      rw [encodePoint_ascii (by omega), hc, byte_toNat]
    | @two bits hb hlow hhigh =>
      dsimp only at h
      obtain ⟨b1, after, rfl, h1, h1', h⟩ := follow_eq_scalar h
      have hc := follow_zero_eq_scalar (by omega) h
      refine ⟨plain (by omega), [b1], after, rfl, ?_⟩
      rw [encodePoint, if_neg (by omega), if_pos (by omega), ← byte_toNat b, ← byte_toNat b1]
      congr <;> omega
    | @three bits low high hb hbits hlow hhigh hshort hsurrogate =>
      dsimp only at h
      obtain ⟨b1, _, rfl, h1, h1', h⟩ := follow_eq_scalar h
      obtain ⟨b2, after, rfl, h2, h2', h⟩ := follow_eq_scalar h
      have hc := follow_zero_eq_scalar (by omega) h
      refine ⟨plain (by omega), [b1, b2], after, rfl, ?_⟩
      rw [encodePoint, if_neg (by omega), if_neg (by omega), if_pos (by omega), ← byte_toNat b,
        ← byte_toNat b1, ← byte_toNat b2]
      congr <;> omega
    | @four bits low high hb hbits hlow hhigh hshort hlast =>
      dsimp only at h
      obtain ⟨b1, _, rfl, h1, h1', h⟩ := follow_eq_scalar h
      obtain ⟨b2, _, rfl, h2, h2', h⟩ := follow_eq_scalar h
      obtain ⟨b3, after, rfl, h3, h3', h⟩ := follow_eq_scalar h
      have hc := follow_zero_eq_scalar (by omega) h
      refine ⟨plain (by omega), [b1, b2, b3], after, rfl, ?_⟩
      rw [encodePoint, if_neg (by omega), if_neg (by omega), if_neg (by omega), ← byte_toNat b,
        ← byte_toNat b1, ← byte_toNat b2, ← byte_toNat b3]
      congr <;> omega

/-! ### Segments -/

theorem segmentsFrom_found (found : List Segment) (skip : Nat) (bytes : List UInt8) :
    segmentsFrom found skip bytes = found.reverse ++ segmentsFrom [] skip bytes := by
  induction bytes generalizing found skip with
  | nil => simp [segmentsFrom]
  | cons b rest ih =>
    cases skip with
    | zero =>
      rw [segmentsFrom, segmentsFrom, ih (front b rest :: found), ih [front b rest]]
      simp
    | succ skip => rw [segmentsFrom, segmentsFrom, ih]

/-- The segment at the front covers its bytes, and the segments behind it are those of the rest. -/
theorem segments_cons {b : UInt8} {more after : List UInt8}
    (h : (front b (more ++ after)).bytes = b :: more) :
    segments (b :: (more ++ after)) = front b (more ++ after) :: segments after := by
  rw [segments, segmentsFrom, segmentsFrom_found, h, List.length_cons, Nat.add_sub_cancel,
    segmentsFrom_skip]
  rfl

theorem segments_eq_nil {bytes : List UInt8} (h : segments bytes = []) : bytes = [] := by
  cases bytes with
  | nil => rfl
  | cons b rest =>
    rw [segments, segmentsFrom, segmentsFrom_found] at h
    simp at h

/-- Segments that begin with code points are those of bytes that begin with the encoding of these. -/
theorem eq_encode_append_of_segments {t : Text} {found : List Segment} {bytes : List UInt8}
    (h : segments bytes = t.map .scalar ++ found) :
    ∃ after, bytes = encode t ++ after ∧ (∀ c ∈ t, c.isSurrogate = false) ∧
      segments after = found := by
  induction t generalizing bytes with
  | nil => exact ⟨bytes, rfl, by simp, h⟩
  | cons c t ih =>
    cases bytes with
    | nil => simp [segments, segmentsFrom] at h
    | cons b rest =>
      have hfront : front b rest = .scalar c := by
        rw [segments, segmentsFrom, segmentsFrom_found] at h
        simpa using congrArg List.head? h
      obtain ⟨hc, more, after, rfl, hbytes⟩ := front_eq_scalar hfront
      rw [segments_cons (by rw [hfront, Segment.bytes, hbytes]), List.map_cons,
        List.cons_append] at h
      obtain ⟨behind, rfl, ht, hbehind⟩ := ih (List.cons.inj h).2
      refine ⟨behind, ?_, List.forall_mem_cons.mpr ⟨hc, ht⟩, hbehind⟩
      rw [encode, encode, List.flatMap_cons, hbytes, List.cons_append, List.cons_append,
        List.append_assoc]

theorem segments_encode_append {t : Text} (h : ∀ c ∈ t, c.isSurrogate = false)
    (bytes : List UInt8) : segments (encode t ++ bytes) = t.map .scalar ++ segments bytes := by
  induction t with
  | nil => rfl
  | cons c t ih =>
    obtain ⟨hc, ht⟩ := List.forall_mem_cons.mp h
    rw [encode, List.flatMap_cons, List.append_assoc, segments, segmentsFrom_encodePoint hc,
      segmentsFrom_found, ← encode, ← segments, ih ht]
    simp

theorem scalars_eq_ok {decoded t : Text} {position : Nat} {found : List Segment}
    (h : scalars decoded position found = .ok t) :
    ∃ u, found = u.map .scalar ∧ t = decoded.reverse ++ u := by
  induction found generalizing decoded position with
  | nil =>
    rw [scalars] at h
    exact ⟨[], rfl, by rw [Except.ok.inj h, List.append_nil]⟩
  | cons segment found ih =>
    cases segment with
    | scalar c =>
      obtain ⟨u, rfl, rfl⟩ := ih h
      exact ⟨c :: u, rfl, by simp⟩
    | illFormed bytes reason => cases h

/-- Only the encoding of a text decodes to it, and no text with surrogates is decoded. -/
theorem eq_encode_of_decode {bytes : List UInt8} {t : Text} (h : decode bytes = .ok t) :
    bytes = encode t ∧ ∀ c ∈ t, c.isSurrogate = false := by
  obtain ⟨u, hsegments, rfl⟩ := scalars_eq_ok h
  rw [← List.append_nil (t.map Segment.scalar)] at hsegments
  obtain ⟨after, rfl, ht, hafter⟩ := eq_encode_append_of_segments hsegments
  rw [segments_eq_nil hafter, List.append_nil]
  exact ⟨rfl, ht⟩

/-- Where strict decoding succeeds, nothing is replaced. -/
theorem decodeReplacing_of_decode {bytes : List UInt8} {t : Text} (h : decode bytes = .ok t) :
    decodeReplacing bytes = t := by
  obtain ⟨u, hsegments, rfl⟩ := scalars_eq_ok h
  rw [decodeReplacing, hsegments, List.map_map]
  exact List.map_id _

/-- What comes after bytes that decode is decoded on its own. -/
theorem decode_append {bytes more : List UInt8} {t t' : Text} (h : decode bytes = .ok t)
    (h' : decode (bytes ++ more) = .ok t') : ∃ u, t' = t ++ u ∧ decode more = .ok u := by
  obtain ⟨rfl, ht⟩ := eq_encode_of_decode h
  obtain ⟨v, hv, rfl⟩ := scalars_eq_ok h'
  rw [segments_encode_append ht] at hv
  obtain ⟨first, u, rfl, hfirst, hu⟩ := List.map_eq_append_iff.mp hv.symm
  obtain rfl : first = t := (List.map_inj_right fun _ _ => Segment.scalar.inj).mp hfirst
  refine ⟨u, by simp, ?_⟩
  rw [decode, ← hu, scalars_map]
  rfl

end Utf8

end SupervisorRpc
