import Mathlib.Algebra.Group.Nat.Defs
import Mathlib.Data.List.Induction
import SupervisorRpc.Proofs.Text.Points

/-! Natural numbers in decimal digits: `Text.ofNat` writes digits only, without a zero in front, and
`Text.digitsValue` reads them back. -/

namespace SupervisorRpc

theorem CodePoint.isAsciiDigit_ofChar {c : Char} (h : c.isDigit = true) :
    (ofChar c).isAsciiDigit = true := by
  simp only [Char.isDigit, Bool.and_eq_true, decide_eq_true_eq, ge_iff_le,
    UInt32.le_iff_toNat_le] at h
  exact isAsciiDigit_iff.mpr h

namespace Text

theorem ofNat_eq_map (n : Nat) : ofNat n = (Nat.toDigits 10 n).map CodePoint.ofChar := by
  rw [ofNat, ofString, Nat.toList_repr]

theorem isAsciiDigit_of_mem_ofNat {n : Nat} {c : CodePoint} (h : c ∈ ofNat n) :
    c.isAsciiDigit = true := by
  rw [ofNat_eq_map] at h
  obtain ⟨d, hd, rfl⟩ := List.mem_map.mp h
  exact CodePoint.isAsciiDigit_ofChar (Nat.isDigit_of_mem_toDigits (by decide) (by decide) hd)

theorem ofNat_ne_nil (n : Nat) : ofNat n ≠ [] := by
  rw [ofNat_eq_map]
  simp

theorem ofNat_eq_digit_cons (n : Nat) :
    ∃ c ds, ofNat n = c :: ds ∧ c.isAsciiDigit = true := by
  obtain ⟨c, ds, hcs⟩ := List.exists_cons_of_ne_nil (ofNat_ne_nil n)
  have hmem : c ∈ ofNat n := by simp [hcs]
  exact ⟨c, ds, hcs, isAsciiDigit_of_mem_ofNat hmem⟩

/-- Digits read back as the number they write. -/
theorem digitsValue_ofNat (n : Nat) : digitsValue (ofNat n) = n := by
  rw [ofNat_eq_map, digitsValue, List.foldl_map]
  exact Nat.ofDigitChars_ten_toDigits

theorem digitsValue_append (ds : Text) (d : CodePoint) :
    digitsValue (ds ++ [d]) = 10 * digitsValue ds + (d.val - 0x30) := by
  rw [digitsValue, List.foldl_append]
  rfl

theorem digitsValue_lt {ds : Text} (h : ∀ d ∈ ds, d.isAsciiDigit = true) :
    digitsValue ds < 10 ^ ds.length := by
  induction ds using List.reverseRecOn with
  | nil => decide
  | append_singleton ds d ih =>
    have hds := ih fun c hc => h c (List.mem_append_left _ hc)
    have hd := CodePoint.isAsciiDigit_iff.mp (h d (by simp))
    rw [digitsValue_append, List.length_append, List.length_singleton, Nat.pow_succ]
    omega

theorem length_ofNat_le {n k : Nat} (hk : 0 < k) (h : n < 10 ^ k) : (ofNat n).length ≤ k := by
  rw [ofNat_eq_map, List.length_map, Nat.length_toDigits_le_iff (by decide) hk]
  exact h

theorem lt_length_ofNat {n k : Nat} (h : 10 ^ k ≤ n) : k < (ofNat n).length := by
  have hdigits : ∀ d ∈ ofNat n, d.isAsciiDigit = true := fun _ hd => isAsciiDigit_of_mem_ofNat hd
  have hlt := digitsValue_lt hdigits
  rw [digitsValue_ofNat] at hlt
  exact (Nat.pow_lt_pow_iff_right (a := 10) (by decide)).mp (Nat.lt_of_le_of_lt h hlt)

/-- A number is written in as few digits as it can be. -/
theorem length_ofNat_digitsValue {ds : Text} (hne : ds ≠ [])
    (h : ∀ d ∈ ds, d.isAsciiDigit = true) : (ofNat (digitsValue ds)).length ≤ ds.length :=
  length_ofNat_le (List.length_pos_iff.mpr hne) (digitsValue_lt h)

theorem ofNat_zero : ofNat 0 = [point '0'] := by decide

/-- A positive number has no zero in front. -/
theorem head?_ofNat_ne_zero {n : Nat} (h : 0 < n) : (ofNat n).head? ≠ some (point '0') := by
  have one : ∀ m < 10, 0 < m → m.digitChar ≠ '0' := by decide
  have many : ∀ n, 0 < n → (Nat.toDigits 10 n).head? ≠ some '0' := by
    intro n
    induction n using Nat.strongRecOn with
    | ind n ih =>
      intro hn
      by_cases hlt : n < 10
      · simpa [Nat.toDigits_of_lt_base hlt] using one n hlt hn
      · rw [Nat.toDigits_of_base_le (by decide) (by omega), List.head?_append,
          Option.or_of_isSome (by simp)]
        exact ih (n / 10) (by omega) (by omega)
  rw [ofNat_eq_map, List.head?_map]
  intro heq
  obtain ⟨d, hd, hz⟩ := Option.map_eq_some_iff.mp heq
  exact many n h (by rw [hd, CodePoint.ofChar_injective hz])

end Text

end SupervisorRpc
