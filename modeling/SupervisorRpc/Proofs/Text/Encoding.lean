import SupervisorRpc.Proofs.Text.Points
import SupervisorRpc.Connection.Lines

/-! Encoded text decodes to itself: every code point but a surrogate is read back from its bytes, in
front of any other bytes. -/

namespace SupervisorRpc

namespace Utf8

theorem toNat_byte {n : Nat} (h : n < 256) : (byte n).toNat = n := by
  rw [byte, UInt8.toNat_ofNat', Nat.mod_eq_of_lt h]

/-! ### First bytes -/

theorem lead?_one {v : Nat} (h : v < 0x80) : lead? (byte v) = some ⟨v, 0, 0x80, 0xBF⟩ := by
  rw [lead?, toNat_byte (by omega)]
  exact if_pos h

theorem lead?_two {v : Nat} (hlow : 0x80 ≤ v) (hhigh : v < 0x800) :
    lead? (byte (0xC0 + v / 0x40)) = some ⟨v / 0x40, 1, 0x80, 0xBF⟩ := by
  simp only [lead?, toNat_byte (show 0xC0 + v / 0x40 < 256 by omega)]
  rw [if_neg (by omega), if_neg (by omega), if_pos (by omega), Nat.add_sub_cancel_left]

/-- The bounds that a first byte of three sets for the second hold for every code point but the
surrogates. -/
theorem lead?_three {v : Nat} (hlow : 0x800 ≤ v) (hhigh : v < 0x10000)
    (hplain : ¬(0xD800 ≤ v ∧ v ≤ 0xDFFF)) :
    ∃ low high, lead? (byte (0xE0 + v / 0x1000)) = some ⟨v / 0x1000, 2, low, high⟩ ∧
      low ≤ 0x80 + v / 0x40 % 0x40 ∧ 0x80 + v / 0x40 % 0x40 ≤ high := by
  simp only [lead?, toNat_byte (show 0xE0 + v / 0x1000 < 256 by omega)]
  rw [if_neg (by omega), if_neg (by omega), if_neg (by omega)]
  by_cases hzero : v / 0x1000 = 0
  · rw [if_pos (by omega), hzero]
    exact ⟨_, _, rfl, by omega, by omega⟩
  rw [if_neg (by omega)]
  by_cases hD : v / 0x1000 = 0xD
  · rw [if_pos (by omega), hD]
    exact ⟨_, _, rfl, by omega, by omega⟩
  rw [if_neg (by omega), if_pos (by omega), Nat.add_sub_cancel_left]
  exact ⟨_, _, rfl, by omega, by omega⟩

theorem lead?_four {v : Nat} (hlow : 0x10000 ≤ v) (hhigh : v < 0x110000) :
    ∃ low high, lead? (byte (0xF0 + v / 0x40000)) = some ⟨v / 0x40000, 3, low, high⟩ ∧
      low ≤ 0x80 + v / 0x1000 % 0x40 ∧ 0x80 + v / 0x1000 % 0x40 ≤ high := by
  simp only [lead?, toNat_byte (show 0xF0 + v / 0x40000 < 256 by omega)]
  rw [if_neg (by omega), if_neg (by omega), if_neg (by omega), if_neg (by omega),
    if_neg (by omega), if_neg (by omega)]
  by_cases hzero : v / 0x40000 = 0
  · rw [if_pos (by omega), hzero]
    exact ⟨_, _, rfl, by omega, by omega⟩
  rw [if_neg (by omega)]
  by_cases hlast : v / 0x40000 = 4
  · rw [if_neg (by omega), if_pos (by omega), hlast]
    exact ⟨_, _, rfl, by omega, by omega⟩
  rw [if_pos (by omega), Nat.add_sub_cancel_left]
  exact ⟨_, _, rfl, by omega, by omega⟩

/-! ### Code points -/

theorem follow_byte {low high following n : Nat} (hn : n < 256) (hlow : low ≤ n) (hhigh : n ≤ high)
    (taken : List UInt8) (bits : Nat) (rest : List UInt8) :
    follow taken bits low high (following + 1) (byte n :: rest) =
      follow (taken ++ [byte n]) (bits * 0x40 + (n - 0x80)) 0x80 0xBF following rest := by
  rw [follow, toNat_byte hn, if_pos ⟨hlow, hhigh⟩]

theorem follow_done (taken : List UInt8) {bits low high : Nat} (rest : List UInt8) {c : CodePoint}
    (h : bits = c.val) : follow taken bits low high 0 rest = .scalar c := by
  rw [follow, h]
  exact congrArg Segment.scalar (CodePoint.ext (CodePoint.val_ofNat c.isLt))

/-- The bytes of a code point are read as that code point, whatever comes after them. -/
theorem front_encodePoint {c : CodePoint} (h : c.isSurrogate = false) :
    ∃ b more, encodePoint c = b :: more ∧ ∀ rest, front b (more ++ rest) = .scalar c := by
  have hplain : ¬(0xD800 ≤ c.val ∧ c.val ≤ 0xDFFF) := by
    rw [← CodePoint.isSurrogate_iff, h]
    simp
  have hc := c.isLt
  unfold encodePoint
  split
  · next h1 =>
    refine ⟨_, _, rfl, fun rest => ?_⟩
    rw [front, lead?_one h1]
    exact follow_done _ _ rfl
  next h1 =>
  split
  · next h2 =>
    refine ⟨_, _, rfl, fun rest => ?_⟩
    rw [front, lead?_two (by omega) h2]
    simp only [List.cons_append, List.nil_append]
    rw [follow_byte (by omega) (by omega) (by omega)]
    exact follow_done _ _ (by omega)
  next h2 =>
  split
  · next h3 =>
    refine ⟨_, _, rfl, fun rest => ?_⟩
    obtain ⟨low, high, hlead, hlow, hhigh⟩ := lead?_three (by omega) h3 hplain
    rw [front, hlead]
    simp only [List.cons_append, List.nil_append]
    rw [follow_byte (by omega) hlow hhigh, follow_byte (by omega) (by omega) (by omega)]
    exact follow_done _ _ (by omega)
  · next h3 =>
    refine ⟨_, _, rfl, fun rest => ?_⟩
    obtain ⟨low, high, hlead, hlow, hhigh⟩ := lead?_four (show 0x10000 ≤ c.val by omega) hc
    rw [front, hlead]
    simp only [List.cons_append, List.nil_append]
    rw [follow_byte (by omega) hlow hhigh, follow_byte (by omega) (by omega) (by omega),
      follow_byte (by omega) (by omega) (by omega)]
    exact follow_done _ _ (by omega)

/-! ### Text -/

theorem segmentsFrom_skip (found : List Segment) (skipped rest : List UInt8) :
    segmentsFrom found skipped.length (skipped ++ rest) = segmentsFrom found 0 rest := by
  induction skipped with
  | nil => rfl
  | cons b skipped ih => rw [List.length_cons, List.cons_append, segmentsFrom, ih]

theorem segmentsFrom_encodePoint {c : CodePoint} (h : c.isSurrogate = false)
    (found : List Segment) (rest : List UInt8) :
    segmentsFrom found 0 (encodePoint c ++ rest) = segmentsFrom (.scalar c :: found) 0 rest := by
  obtain ⟨b, more, hbytes, hfront⟩ := front_encodePoint h
  rw [hbytes, List.cons_append, segmentsFrom, hfront, Segment.bytes, hbytes, List.length_cons,
    Nat.add_sub_cancel, segmentsFrom_skip]

/-- The segments of encoded text are its code points. -/
theorem segments_encode {t : Text} (h : ∀ c ∈ t, c.isSurrogate = false) :
    segments (encode t) = t.map .scalar := by
  -- The segments found so far are kept in reverse, so the induction is over all of them.
  have read : ∀ (t : Text) (found : List Segment), (∀ c ∈ t, c.isSurrogate = false) →
      segmentsFrom found 0 (encode t) = found.reverse ++ t.map .scalar := by
    intro t
    induction t with
    | nil => intro found _; simp [encode, segmentsFrom]
    | cons c t ih =>
      intro found h
      rw [encode, List.flatMap_cons, segmentsFrom_encodePoint (h c (by simp))]
      rw [show t.flatMap encodePoint = encode t from rfl, ih _ fun d hd => h d (by simp [hd])]
      simp
  exact read t [] h

theorem scalars_map (t decoded : Text) (position : Nat) :
    scalars decoded position (t.map .scalar) = .ok (decoded.reverse ++ t) := by
  induction t generalizing decoded position with
  | nil => simp [scalars]
  | cons c t ih => rw [List.map_cons, scalars, ih]; simp

/-- Strict decoding gives an encoded text back. -/
theorem decode_encode {t : Text} (h : ∀ c ∈ t, c.isSurrogate = false) :
    decode (encode t) = .ok t := by
  rw [decode, segments_encode h, scalars_map]
  rfl

/-! ### Bytes below 0x80 -/

/-- A code point past ASCII has no byte of ASCII. -/
theorem encodePoint_of_le {c : CodePoint} (h : 0x80 ≤ c.val) :
    ∀ b ∈ encodePoint c, 0x80 ≤ b.toNat := by
  have hc := c.isLt
  intro b hb
  rw [encodePoint, if_neg (by omega)] at hb
  split at hb
  · simp only [List.mem_cons, List.not_mem_nil, or_false] at hb
    rcases hb with rfl | rfl <;> rw [toNat_byte (by omega)] <;> omega
  split at hb
  · simp only [List.mem_cons, List.not_mem_nil, or_false] at hb
    rcases hb with rfl | rfl | rfl <;> rw [toNat_byte (by omega)] <;> omega
  · simp only [List.mem_cons, List.not_mem_nil, or_false] at hb
    rcases hb with rfl | rfl | rfl | rfl <;> rw [toNat_byte (by omega)] <;> omega

theorem encodePoint_ascii {c : CodePoint} (h : c.val < 0x80) : encodePoint c = [byte c.val] :=
  if_pos h

/-- Encoding brings in no newline. -/
theorem newline_notMem_encode {t : Text} (h : point '\n' ∉ t) : newline ∉ encode t := by
  intro hmem
  obtain ⟨c, hc, hb⟩ := List.mem_flatMap.mp hmem
  by_cases hascii : c.val < 0x80
  · rw [encodePoint_ascii hascii, List.mem_singleton] at hb
    have hval : c.val = 0x0A := by
      have := congrArg UInt8.toNat hb
      rw [toNat_byte (by omega)] at this
      exact this.symm
    exact h (CodePoint.ext (a := point '\n') hval.symm ▸ hc)
  · have := encodePoint_of_le (by omega) _ hb
    revert this
    decide

theorem newline_mem_encode {t : Text} (h : point '\n' ∈ t) : newline ∈ encode t :=
  List.mem_flatMap.mpr ⟨_, h, List.mem_singleton.mpr rfl⟩

/-! ### Carriage returns at the end of a line -/

theorem encode_append (t u : Text) : encode (t ++ u) = encode t ++ encode u := List.flatMap_append

theorem encode_singleton {c : CodePoint} (h : c.val < 0x80) : encode [c] = [byte c.val] := by
  rw [encode, List.flatMap_singleton, encodePoint_ascii h]

theorem encodePoint_ne_nil (c : CodePoint) : encodePoint c ≠ [] := by
  unfold encodePoint
  repeat' split
  all_goals exact List.cons_ne_nil _ _

/-- Only a carriage return ends in the byte of one. -/
theorem encodePoint_eq_append {c : CodePoint} (h : c ≠ point '\r') :
    ∃ bytes b, encodePoint c = bytes ++ [b] ∧ b ≠ carriageReturn := by
  by_cases hascii : c.val < 0x80
  · refine ⟨[], byte c.val, encodePoint_ascii hascii, fun heq => h ?_⟩
    have hval := congrArg UInt8.toNat heq
    rw [toNat_byte (by omega)] at hval
    exact CodePoint.ext hval
  · have hlast := List.getLast_mem (encodePoint_ne_nil c)
    refine ⟨_, _, (List.dropLast_concat_getLast (encodePoint_ne_nil c)).symm, fun heq => ?_⟩
    exact absurd (encodePoint_of_le (Nat.le_of_not_lt hascii) _ (heq ▸ hlast)) (by decide)

end Utf8

theorem stripReturns_append_return (bytes : List UInt8) :
    stripReturns (bytes ++ [carriageReturn]) = stripReturns bytes := by
  simp [stripReturns]

theorem stripReturns_of_ne {b : UInt8} (h : b ≠ carriageReturn) (bytes : List UInt8) :
    stripReturns (bytes ++ [b]) = bytes ++ [b] := by
  simp [stripReturns, h]

theorem stripReturns_encode_append {c : CodePoint} (h : c ≠ point '\r') (t : Text) :
    stripReturns (Utf8.encode (t ++ [c])) = Utf8.encode (t ++ [c]) := by
  obtain ⟨bytes, b, hbytes, hb⟩ := Utf8.encodePoint_eq_append h
  have hencode : Utf8.encode (t ++ [c]) = Utf8.encode t ++ bytes ++ [b] := by
    rw [Utf8.encode_append, List.append_assoc, ← hbytes]
    simp [Utf8.encode]
  rw [hencode]
  exact stripReturns_of_ne hb _

end SupervisorRpc
