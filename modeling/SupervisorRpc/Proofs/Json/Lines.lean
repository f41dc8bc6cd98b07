import Mathlib.Data.List.Induction
import SupervisorRpc.Proofs.Json.Grammar
import SupervisorRpc.Proofs.Text.Encoding

/-! Objects that are written on a line of their own.  Their values are never floating-point numbers, so
the values that count as nothing can be listed; and carriage returns at the end of the line are
blanks, which may be taken off. -/

namespace SupervisorRpc

namespace Json

/-- The values that count as nothing. -/
inductive Falsy : Json → Prop
  | null : Falsy .null
  | false : Falsy (.bool false)
  | zero : Falsy (.number (.int 0))
  | emptyString : Falsy (.string [])
  | emptyArray : Falsy (.array [])
  | emptyObject : Falsy (.object [])

theorem isNothing_iff_falsy {v : Json} (h : ∀ x, v ≠ .number (.float x)) :
    v.isNothing = true ↔ Falsy v := by
  constructor
  · intro hv
    cases v with
    | null => exact .null
    | bool b =>
      cases b with
      | false => exact .false
      | true => cases hv
    | number n =>
      cases n with
      | int i =>
        obtain rfl : i = 0 := by simpa [isNothing, Number.isZero] using hv
        exact .zero
      | float x => exact absurd rfl (h x)
    | string t =>
      obtain rfl : t = [] := by simpa [isNothing] using hv
      exact .emptyString
    | array items =>
      obtain rfl : items = [] := by simpa [isNothing] using hv
      exact .emptyArray
    | object members =>
      obtain rfl : members = [] := by simpa [isNothing] using hv
      exact .emptyObject
  · intro hv
    cases hv <;> rfl

theorem ScalarWritten.ne_float {v : Json} {t : Text} (h : ScalarWritten v t) (x : Float) :
    v ≠ .number (.float x) := by
  rintro rfl
  cases h

theorem Written.ne_float {depth : Nat} {v : Json} {t : Text} (h : Written depth v t) (x : Float) :
    v ≠ .number (.float x) := by
  cases depth with
  | zero => exact ScalarWritten.ne_float h x
  | succ depth =>
    rintro rfl
    cases h with
    | scalar h => exact h.ne_float x rfl

variable {inner : Json → Text → Prop}

theorem Separated.written {α : Type} {W : α → Text → Prop} {as : List α} {t : Text}
    (h : Separated W as t) : ∀ a ∈ as, ∃ u, W a u := by
  induction h with
  | one h =>
    intro a ha
    rw [List.mem_singleton.mp ha]
    exact ⟨_, h⟩
  | cons h _ ih =>
    intro a ha
    rcases List.mem_cons.mp ha with rfl | ha
    · exact ⟨_, h⟩
    · exact ih a ha

/-- The value of each member of an object is written somewhere in it. -/
theorem ObjectWritten.value_written {members : List (Text × Json)} {t : Text}
    (h : ObjectWritten inner members t) : ∀ m ∈ members, ∃ u, inner m.2 u := by
  cases h with
  | mk h =>
    cases h with
    | empty _ => simp
    | some h =>
      intro m hm
      obtain ⟨u, hu⟩ := h.written m hm
      cases hu with
      | mk _ hmember _ =>
        cases hmember with
        | mk _ _ _ h => exact ⟨_, h⟩

/-- An object that is written as a line: with blanks between its tokens, but on one line, and in text
that has an encoding; its values have at most `depth` arrays and objects inside one another. -/
structure LineWritten (depth : Nat) (members : List (Text × Json)) (t : Text) : Prop where
  written : Padded (ObjectWritten (Written depth)) members t
  oneLine : point '\n' ∉ t
  plain : ∀ c ∈ t, c.isSurrogate = false

theorem LineWritten.append_return {depth : Nat} {members : List (Text × Json)} {t : Text}
    (h : LineWritten depth members t) : LineWritten depth members (t ++ [point '\r']) := by
  obtain ⟨hwritten, honeLine, hplain⟩ := h
  refine ⟨?_, ?_, ?_⟩
  · cases hwritten with
    | mk hbefore h hafter =>
      rw [List.append_assoc]
      refine .mk hbefore h ?_
      intro c hc
      rcases List.mem_append.mp hc with hc | hc
      · exact hafter c hc
      · exact .inr (.inr (.inr (List.mem_singleton.mp hc)))
  · intro hc
    rcases List.mem_append.mp hc with hc | hc
    · exact honeLine hc
    · revert hc
      decide
  · intro c hc
    rcases List.mem_append.mp hc with hc | hc
    · exact hplain c hc
    · rw [List.mem_singleton.mp hc]
      decide

/-- Taking the carriage returns off the end of a line takes nothing from what ends in another code
point. -/
theorem stripReturns_encode {c : CodePoint} (hc : c ≠ point '\r') (before after : Text) :
    ∃ kept, (∀ d ∈ kept, d ∈ after) ∧
      stripReturns (Utf8.encode (before ++ [c] ++ after)) =
        Utf8.encode (before ++ [c] ++ kept) := by
  -- From the end of the line on: a return goes, and anything else ends the stripping.
  induction after using List.reverseRecOn with
  | nil => exact ⟨[], by simp, by rw [List.append_nil, stripReturns_encode_append hc]⟩
  | append_singleton after d ih =>
    by_cases hd : d = point '\r'
    · obtain ⟨kept, hkept, hstrip⟩ := ih
      refine ⟨kept, fun e he => List.mem_append_left _ (hkept e he), ?_⟩
      rw [← hstrip, ← List.append_assoc, Utf8.encode_append, hd,
        Utf8.encode_singleton (by decide)]
      exact stripReturns_append_return _
    · refine ⟨after ++ [d], fun e he => he, ?_⟩
      rw [← List.append_assoc]
      exact stripReturns_encode_append hd _

variable {depth : Nat} {members : List (Text × Json)} {t : Text}

/-- What is left of a line without its carriage returns still writes the object. -/
theorem LineWritten.stripped (h : LineWritten depth members t) :
    ∃ u, LineWritten depth members u ∧ stripReturns (Utf8.encode t) = Utf8.encode u := by
  obtain ⟨hwritten, honeLine, hplain⟩ := h
  cases hwritten with
  | @mk before _ after hbefore hobject hafter =>
    cases hobject with
    | @mk inside hlisted =>
      obtain ⟨kept, hkept, hstrip⟩ := stripReturns_encode (c := point '\x7d') (by decide)
        (before ++ point '\x7b' :: inside) after
      have hsub : ∀ c ∈ before ++ (point '\x7b' :: inside ++ [point '\x7d']) ++ kept,
          c ∈ before ++ (point '\x7b' :: inside ++ [point '\x7d']) ++ after := by
        intro c hc
        rcases List.mem_append.mp hc with hc | hc
        · exact List.mem_append_left _ hc
        · exact List.mem_append_right _ (hkept c hc)
      refine ⟨before ++ (point '\x7b' :: inside ++ [point '\x7d']) ++ kept, ⟨?_, ?_, ?_⟩, ?_⟩
      · exact .mk hbefore (.mk hlisted) fun c hc => hafter c (hkept c hc)
      · exact fun hc => honeLine (hsub _ hc)
      · exact fun c hc => hplain c (hsub c hc)
      · simpa using hstrip

end Json

end SupervisorRpc
