import SupervisorRpc.Text.Basic

/-! Code points by number: what the classes of `CodePoint` say about `CodePoint.val`. -/

namespace SupervisorRpc

namespace CodePoint

@[simp] theorem val_ofChar (c : Char) : (ofChar c).val = c.toNat := rfl

theorem ofChar_injective {c d : Char} (h : ofChar c = ofChar d) : c = d :=
  Char.toNat_inj.mp (congrArg val h)

theorem within_iff {c : CodePoint} {lo hi : Nat} :
    c.within lo hi = true ↔ lo ≤ c.val ∧ c.val ≤ hi := by
  simp [within]

theorem isAscii_iff {c : CodePoint} : c.isAscii = true ↔ c.val < 0x80 := by
  simp [isAscii]

theorem isAsciiDigit_iff {c : CodePoint} : c.isAsciiDigit = true ↔ 0x30 ≤ c.val ∧ c.val ≤ 0x39 :=
  within_iff

theorem isHighSurrogate_iff {c : CodePoint} :
    c.isHighSurrogate = true ↔ 0xD800 ≤ c.val ∧ c.val ≤ 0xDBFF :=
  within_iff

theorem isLowSurrogate_iff {c : CodePoint} :
    c.isLowSurrogate = true ↔ 0xDC00 ≤ c.val ∧ c.val ≤ 0xDFFF :=
  within_iff

theorem isSurrogate_iff {c : CodePoint} :
    c.isSurrogate = true ↔ 0xD800 ≤ c.val ∧ c.val ≤ 0xDFFF :=
  within_iff

theorem not_isHighSurrogate {c : CodePoint} (h : c.isSurrogate = false) :
    c.isHighSurrogate = false := by
  rw [← Bool.not_eq_true, isSurrogate_iff] at h
  rw [← Bool.not_eq_true, isHighSurrogate_iff]
  omega

theorem not_isLowSurrogate {c : CodePoint} (h : c.isSurrogate = false) :
    c.isLowSurrogate = false := by
  rw [← Bool.not_eq_true, isSurrogate_iff] at h
  rw [← Bool.not_eq_true, isLowSurrogate_iff]
  omega

end CodePoint

/-- A text without surrogates, such as decoded bytes are. -/
def Text.Scalar (t : Text) : Prop := ∀ c ∈ t, c.isSurrogate = false

namespace Text.Scalar

variable {t : Text}

theorem of_suffix (h : t.Scalar) {u : Text} (hu : u <:+ t) : u.Scalar :=
  fun c hc => h c (hu.subset hc)

theorem of_cons {c : CodePoint} (h : Text.Scalar (c :: t)) : c.isSurrogate = false ∧ t.Scalar :=
  List.forall_mem_cons.mp h

theorem of_isAscii (h : ∀ c ∈ t, c.isAscii = true) : t.Scalar := by
  intro c hc
  have := CodePoint.isAscii_iff.mp (h c hc)
  rw [← Bool.not_eq_true, CodePoint.isSurrogate_iff]
  omega

end Text.Scalar

end SupervisorRpc
