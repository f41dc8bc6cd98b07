import SupervisorRpc.Json.Decode
import SupervisorRpc.Proofs.Json.Grammar
import SupervisorRpc.Proofs.Text.Points

/-! Reading strings: the reader returns the string that a text writes, and what follows its closing
quote. -/

namespace SupervisorRpc

namespace Json

/-- Every letter escape is read as the code point that it stands for. -/
theorem escaped?_letter : ∀ e ∈ letterEscapes,
    point e.1 ≠ point 'u' ∧ escaped? (point e.1) = some (CodePoint.ofNat e.2) := by
  decide

section

variable {start read rest : Text} {half : Bool}

theorem stringFrom_plain {c : CodePoint} (hc : 0x20 ≤ c.val) (hquote : c ≠ point '"')
    (hslash : c ≠ point '\\') :
    stringFrom start (.between half) read (c :: rest) =
      stringFrom start (.between false) (c :: read) rest := by
  rw [stringFrom, if_neg hquote, if_neg hslash, if_neg (by omega)]

theorem stringFrom_letter {c : CodePoint} {letter : Char} (h : (letter, c.val) ∈ letterEscapes) :
    stringFrom start (.between half) read (point '\\' :: point letter :: rest) =
      stringFrom start (.between false) (c :: read) rest := by
  obtain ⟨hu, hescaped⟩ := escaped?_letter _ h
  have hc : CodePoint.ofNat c.val = c := CodePoint.ext (CodePoint.val_ofNat c.isLt)
  rw [stringFrom, if_neg (by decide), if_pos rfl, stringFrom, if_neg hu, hescaped, hc]

/-- A unit is read as a code point of its own, or joins the half of a pair before it. -/
theorem stringFrom_unit {n : Nat} {t : Text} (h : UnitWritten n t) (hrest : rest ≠ []) :
    stringFrom start (.between half) read (t ++ rest) =
      stringFrom start (.between (addUnit half read (CodePoint.ofNat n)).1)
        (addUnit half read (CodePoint.ofNat n)).2 rest := by
  cases h with
  | mk ha hb hc hd =>
    have hempty : rest.isEmpty = false := by simpa using hrest
    simp only [List.cons_append, List.nil_append]
    rw [stringFrom, if_neg (by decide), if_pos rfl, stringFrom, if_pos rfl, stringFrom, ha]
    simp only
    rw [if_neg (by decide), stringFrom, hb]
    simp only
    rw [if_neg (by decide), stringFrom, hc]
    simp only
    rw [if_neg (by decide), stringFrom, hd]
    simp only
    rw [if_pos (by decide), hempty]
    simp only [Bool.false_eq_true, if_false, Nat.zero_mul, Nat.zero_add]

/-- Whether a code point is the first half of a pair is all that the reader keeps of it. -/
theorem addUnit_of_notLow {c : CodePoint} (h : half = false ∨ c.isLowSurrogate = false) :
    addUnit half read c = (c.isHighSurrogate, c :: read) := by
  have : (half && c.isLowSurrogate) = false := by rcases h with h | h <;> simp [h]
  simp [addUnit, this]

theorem addUnit_pair {high low c : CodePoint} (hlow : low.isLowSurrogate = true)
    (hc : joined high low = c) : addUnit true (high :: read) low = (false, c :: read) := by
  simp [addUnit, hlow, hc]

theorem joined_eq {c : CodePoint} {high low : Nat} (hhigh : 0xD800 ≤ high ∧ high ≤ 0xDBFF)
    (hlow : 0xDC00 ≤ low ∧ low ≤ 0xDFFF)
    (hc : c.val = 0x10000 + (high - 0xD800) * 0x400 + (low - 0xDC00)) :
    joined (CodePoint.ofNat high) (CodePoint.ofNat low) = c := by
  have h1 := CodePoint.val_ofNat (show high < 0x110000 by omega)
  have h2 := CodePoint.val_ofNat (show low < 0x110000 by omega)
  have h3 := c.isLt
  apply CodePoint.ext
  rw [joined, h1, h2, CodePoint.val_ofNat (by omega), hc]

end

/-- The reader is after an escaped first half of a pair only if no second half comes next. -/
def HalfFits (half : Bool) (s : Text) : Prop :=
  half = true → ∀ c ∈ s.head?, c.isLowSurrogate = false

theorem halfFits_of_unpaired {c : CodePoint} {s : Text} (h : Text.Unpaired (c :: s)) :
    HalfFits c.isHighSurrogate s := by
  intro hhigh d hd
  have := (List.isChain_cons.mp h).1 d hd
  simpa [hhigh] using this

theorem stringFrom_point {c : CodePoint} {s t read start rest : Text} {half : Bool}
    (h : PointWritten c t) (hs : Text.Unpaired (c :: s)) (hhalf : HalfFits half (c :: s))
    (hrest : rest ≠ []) :
    ∃ half', HalfFits half' s ∧
      stringFrom start (.between half) read (t ++ rest) =
        stringFrom start (.between half') (c :: read) rest := by
  cases h with
  | plain hc hquote hslash =>
    exact ⟨false, by simp [HalfFits], stringFrom_plain hc hquote hslash⟩
  | letter h => exact ⟨false, by simp [HalfFits], stringFrom_letter h⟩
  | unit h =>
    have hlow : half = false ∨ c.isLowSurrogate = false := by
      cases half with
      | false => exact .inl rfl
      | true => exact .inr (hhalf rfl c rfl)
    have hc : CodePoint.ofNat c.val = c := CodePoint.ext (CodePoint.val_ofNat c.isLt)
    refine ⟨c.isHighSurrogate, halfFits_of_unpaired hs, ?_⟩
    rw [stringFrom_unit h hrest, hc, addUnit_of_notLow hlow]
  | @pair high low t u hhigh hlow hc ht hu =>
    have hhigh' : (CodePoint.ofNat high).isHighSurrogate = true := by
      rw [CodePoint.isHighSurrogate_iff, CodePoint.val_ofNat (by omega)]
      exact hhigh
    have hlow' : (CodePoint.ofNat low).isLowSurrogate = true := by
      rw [CodePoint.isLowSurrogate_iff, CodePoint.val_ofNat (by omega)]
      exact hlow
    have hnot : (CodePoint.ofNat high).isLowSurrogate = false := by
      rw [← Bool.not_eq_true, CodePoint.isLowSurrogate_iff, CodePoint.val_ofNat (by omega)]
      omega
    refine ⟨false, by simp [HalfFits], ?_⟩
    -- The first unit is kept as a half, and the second joins it.
    rw [List.append_assoc, stringFrom_unit ht (by simp [hrest]), addUnit_of_notLow (.inr hnot),
      hhigh', stringFrom_unit hu hrest, addUnit_pair hlow' (joined_eq hhigh hlow hc)]

theorem stringFrom_points {s t : Text} (h : PointsWritten s t) {start read rest : Text}
    {half : Bool} (hs : s.Unpaired) (hhalf : HalfFits half s) :
    stringFrom start (.between half) read (t ++ point '"' :: rest) =
      .ok (read.reverse ++ s, rest) := by
  induction h generalizing read half with
  | nil => rw [List.nil_append, stringFrom, if_pos rfl, List.append_nil]
  | cons hc _ ih =>
    rw [List.append_assoc]
    obtain ⟨half', hhalf', hread⟩ := stringFrom_point hc hs hhalf
      (List.append_ne_nil_of_right_ne_nil _ (List.cons_ne_nil _ _))
    rw [hread, ih (List.isChain_cons.mp hs).2 hhalf']
    simp

/-- The reader of strings returns the string that a text writes. -/
theorem stringBody_of_written {s t : Text} (h : StringWritten s t) (rest : Text) :
    ∃ u, t ++ rest = point '"' :: u ∧ stringBody u = .ok (s, rest) := by
  cases h with
  | @mk t hs h =>
    refine ⟨t ++ point '"' :: rest, by simp, ?_⟩
    exact stringFrom_points h hs (by simp [HalfFits])

end Json

end SupervisorRpc
