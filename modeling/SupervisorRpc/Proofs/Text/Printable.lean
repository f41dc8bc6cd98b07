import Mathlib.Data.List.TakeWhile
import SupervisorRpc.Proofs.Text.Decimal
import SupervisorRpc.Number.Basic
import SupervisorRpc.Text.Utf8

/-! Printable text: nothing but the ASCII code points from the space to the tilde.  Numbers are
written in printable text.  Such a text has no line end, and strict UTF-8 encoding never refuses
it. -/

namespace SupervisorRpc

theorem Utf8.surrogateRun?_eq_none {t : Text} (h : ∀ c ∈ t, c.isSurrogate = false) :
    surrogateRun? t = none := by
  have hplain : t.dropWhile (!·.isSurrogate) = [] := by
    rw [List.dropWhile_eq_nil_iff]
    intro c hc
    rw [h c hc]
    rfl
  rw [surrogateRun?, hplain]

namespace Text

/-- Every code point of `t` is a printable ASCII one. -/
def Printable (t : Text) : Prop := ∀ c ∈ t, c.within 0x20 0x7E = true

instance (t : Text) : Decidable (Printable t) := inferInstanceAs (Decidable (∀ c ∈ t, _))

namespace Printable

variable {t u : Text}

@[simp] theorem nil : Printable [] := by simp [Printable]

@[simp] theorem append_iff : Printable (t ++ u) ↔ Printable t ∧ Printable u := by
  simp [Printable, or_imp, forall_and]

@[simp] theorem cons_iff {c : CodePoint} :
    Printable (c :: t) ↔ c.within 0x20 0x7E = true ∧ Printable t := by
  simp [Printable]

theorem mono (h : Printable t) (hu : ∀ c ∈ u, c ∈ t) : Printable u := fun c hc => h c (hu c hc)

theorem take (h : Printable t) (n : Nat) : Printable (t.take n) :=
  h.mono fun _ => List.mem_of_mem_take

theorem drop (h : Printable t) (n : Nat) : Printable (t.drop n) :=
  h.mono fun _ => List.mem_of_mem_drop

theorem replicate {c : CodePoint} (h : c.within 0x20 0x7E = true) (n : Nat) :
    Printable (List.replicate n c) := by
  intro d hd
  rw [List.eq_of_mem_replicate hd]
  exact h

theorem isAscii (h : Printable t) : ∀ c ∈ t, c.isAscii = true := by
  intro c hc
  have := CodePoint.within_iff.mp (h c hc)
  apply CodePoint.isAscii_iff.mpr
  omega

theorem newline_notMem (h : Printable t) : point '\n' ∉ t := fun hc =>
  absurd (h _ hc) (by decide)

theorem not_isSurrogate (h : Printable t) : ∀ c ∈ t, c.isSurrogate = false :=
  Scalar.of_isAscii h.isAscii

/-- Printable text has an encoding. -/
theorem surrogateRun? (h : Printable t) : Utf8.surrogateRun? t = none :=
  Utf8.surrogateRun?_eq_none h.not_isSurrogate

end Printable

theorem printable_ofNat (n : Nat) : Printable (ofNat n) := by
  intro c hc
  have := CodePoint.isAsciiDigit_iff.mp (isAsciiDigit_of_mem_ofNat hc)
  apply CodePoint.within_iff.mpr
  omega

theorem printable_ofInt (i : Int) : Printable (ofInt i) := by
  unfold ofInt
  split
  · exact Printable.cons_iff.mpr ⟨by decide, printable_ofNat _⟩
  · exact printable_ofNat _

theorem printable_hexDigit {n : Nat} (h : n < 16) : (hexDigit n).within 0x20 0x7E = true := by
  revert n
  decide

theorem printable_hex (width n : Nat) : Printable (hex width n) := by
  induction width generalizing n with
  | zero => simp [hex]
  | succ width ih =>
    rw [hex, Printable.append_iff]
    exact ⟨ih _, Printable.cons_iff.mpr ⟨printable_hexDigit (Nat.mod_lt _ (by decide)), by simp⟩⟩

end Text

namespace Number

open Text

theorem printable_sign (negative : Bool) : Printable (sign negative) := by
  cases negative <;> decide

theorem printable_positional {digits : Text} (h : Printable digits) (exponent : Int) :
    Printable (positional digits exponent) := by
  unfold positional
  have zeros := Printable.replicate (show (point '0').within 0x20 0x7E = true by decide)
  split
  · simp only [Printable.append_iff]
    exact ⟨⟨by decide, zeros _⟩, h⟩
  · have padded := Printable.append_iff.mpr ⟨h, zeros (exponent.toNat + 1 - digits.length)⟩
    simp only [Printable.append_iff, Printable.cons_iff]
    refine ⟨padded.take _, by decide, ?_⟩
    split
    · decide
    · exact padded.drop _

theorem printable_scientific (l : Layout) {digits : Text} (h : Printable digits) (exponent : Int) :
    Printable (scientific l digits exponent) := by
  have zeros := Printable.replicate (show (point '0').within 0x20 0x7E = true by decide)
  have mark : Printable (text (if exponent < 0 then "e-" else "e+")) := by split <;> decide
  simp only [scientific, Printable.append_iff]
  refine ⟨⟨⟨⟨h.take 1, ?_⟩, mark⟩, zeros _⟩, printable_ofNat _⟩
  split
  · simp
  · exact Printable.cons_iff.mpr ⟨by decide, h.drop 1⟩

theorem printable_floatText (x : Float) : Printable (floatText layout x) := by
  unfold floatText
  split
  · decide
  · exact Printable.append_iff.mpr ⟨printable_sign _, by decide⟩
  · split
    · exact Printable.append_iff.mpr ⟨printable_sign _, by decide⟩
    · refine Printable.append_iff.mpr ⟨printable_sign _, ?_⟩
      split
      · exact printable_positional (printable_ofNat _) _
      · exact printable_scientific _ (printable_ofNat _) _

theorem printable_toText (n : Number) : Printable n.toText := by
  cases n with
  | int i => exact printable_ofInt i
  | float x => exact printable_floatText x

end Number

end SupervisorRpc
