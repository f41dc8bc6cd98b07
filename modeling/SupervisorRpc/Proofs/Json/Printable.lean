import SupervisorRpc.Json.Encode
import SupervisorRpc.Proofs.Json.Grammar
import SupervisorRpc.Proofs.Text.Printable

/-! Values are written in printable text on one line: every other code point of a string is
escaped. -/

namespace SupervisorRpc

namespace Json

open Text

/-- A code point is written by a letter, as it is, by a unit, or as two units. -/
theorem encodePoint_cases (c : CodePoint) :
    (∃ letter, (letter, c.val) ∈ letterEscapes ∧ encodePoint c = [point '\\', point letter]) ∨
    (c.within 0x20 0x7E = true ∧ c ≠ point '"' ∧ c ≠ point '\\' ∧ encodePoint c = [c]) ∨
    (c.val < 0x10000 ∧ encodePoint c = unitEscape c.val) ∨
    (0x10000 ≤ c.val ∧ encodePoint c =
      unitEscape (0xD800 + (c.val - 0x10000) / 0x400) ++
        unitEscape (0xDC00 + (c.val - 0x10000) % 0x400)) := by
  have letter : ∀ {l : Char} {d : CodePoint}, c = d → (l, d.val) ∈ letterEscapes →
      (l, c.val) ∈ letterEscapes := fun h hd => h ▸ hd
  unfold encodePoint
  by_cases hquote : c = point '"'
  · rw [if_pos hquote]
    exact .inl ⟨'"', letter hquote (by decide), rfl⟩
  rw [if_neg hquote]
  by_cases hslash : c = point '\\'
  · rw [if_pos hslash]
    exact .inl ⟨'\\', letter hslash (by decide), rfl⟩
  rw [if_neg hslash]
  by_cases hn : c = point '\n'
  · rw [if_pos hn]
    exact .inl ⟨'n', letter hn (by decide), rfl⟩
  rw [if_neg hn]
  by_cases hr : c = point '\r'
  · rw [if_pos hr]
    exact .inl ⟨'r', letter hr (by decide), rfl⟩
  rw [if_neg hr]
  by_cases ht : c = point '\t'
  · rw [if_pos ht]
    exact .inl ⟨'t', letter ht (by decide), rfl⟩
  rw [if_neg ht]
  by_cases hb : c.val = 0x08
  · rw [if_pos hb]
    exact .inl ⟨'b', by rw [hb]; decide, rfl⟩
  rw [if_neg hb]
  by_cases hf : c.val = 0x0C
  · rw [if_pos hf]
    exact .inl ⟨'f', by rw [hf]; decide, rfl⟩
  rw [if_neg hf]
  by_cases hplain : c.within 0x20 0x7E = true
  · rw [if_pos hplain]
    exact .inr (.inl ⟨hplain, hquote, hslash, rfl⟩)
  rw [if_neg hplain]
  by_cases hunit : c.val < 0x10000
  · rw [if_pos hunit]
    exact .inr (.inr (.inl ⟨hunit, rfl⟩))
  · rw [if_neg hunit]
    exact .inr (.inr (.inr ⟨Nat.le_of_not_lt hunit, rfl⟩))

theorem printable_unitEscape (unit : Nat) : Printable (unitEscape unit) :=
  Printable.append_iff.mpr ⟨by decide, printable_hex 4 unit⟩

theorem printable_letterEscapes : ∀ e ∈ letterEscapes, Printable [point '\\', point e.1] := by
  decide

theorem printable_encodePoint (c : CodePoint) : Printable (encodePoint c) := by
  rcases encodePoint_cases c with ⟨letter, hl, h⟩ | ⟨hc, -, -, h⟩ | ⟨-, h⟩ | ⟨-, h⟩
  · rw [h]
    exact printable_letterEscapes _ hl
  · rw [h]
    exact Printable.cons_iff.mpr ⟨hc, Printable.nil⟩
  · rw [h]
    exact printable_unitEscape _
  · rw [h]
    exact Printable.append_iff.mpr ⟨printable_unitEscape _, printable_unitEscape _⟩

theorem printable_encodeString (t : Text) : Printable (encodeString t) := by
  have body : Printable (t.flatMap encodePoint) := by
    intro c hc
    obtain ⟨d, -, hd⟩ := List.mem_flatMap.mp hc
    exact printable_encodePoint d c hd
  rw [encodeString, Printable.append_iff, Printable.cons_iff]
  exact ⟨⟨by decide, body⟩, by decide⟩

/-- The separators are printable. -/
structure Spacing.Printable (s : Spacing) : Prop where
  comma : s.comma.Printable
  colon : s.colon.Printable

theorem compact_printable : compact.Printable := ⟨by decide, by decide⟩

theorem spaced_printable : spaced.Printable := ⟨by decide, by decide⟩

mutual

/-- A value is written in printable text. -/
theorem printable_encode {s : Spacing} (hs : s.Printable) : (v : Json) → Printable (encode s v)
  | .null => by
    unfold encode
    decide
  | .bool b => by
    unfold encode
    cases b <;> decide
  | .number n => by
    unfold encode
    exact n.printable_toText
  | .string t => by
    unfold encode
    exact printable_encodeString t
  | .array items => by
    rw [encode, Printable.append_iff, Printable.append_iff]
    exact ⟨⟨by decide, printable_encodeItems hs items⟩, by decide⟩
  | .object members => by
    rw [encode, Printable.append_iff, Printable.append_iff]
    exact ⟨⟨by decide, printable_encodeMembers hs members⟩, by decide⟩

theorem printable_encodeItems {s : Spacing} (hs : s.Printable) :
    (items : List Json) → Printable (encodeItems s items)
  | [] => by
    unfold encodeItems
    exact Printable.nil
  | [item] => by
    unfold encodeItems
    exact printable_encode hs item
  | item :: next :: rest => by
    rw [encodeItems, Printable.append_iff, Printable.append_iff]
    · exact ⟨⟨printable_encode hs item, hs.comma⟩, printable_encodeItems hs (next :: rest)⟩
    · simp

theorem printable_encodeMembers {s : Spacing} (hs : s.Printable) :
    (members : List (Text × Json)) → Printable (encodeMembers s members)
  | [] => by
    unfold encodeMembers
    exact Printable.nil
  | [(key, value)] => by
    rw [encodeMembers, Printable.append_iff, Printable.append_iff]
    exact ⟨⟨printable_encodeString key, hs.colon⟩, printable_encode hs value⟩
  | (key, value) :: next :: rest => by
    rw [encodeMembers]
    · simp only [Printable.append_iff]
      exact ⟨⟨⟨⟨printable_encodeString key, hs.colon⟩, printable_encode hs value⟩, hs.comma⟩,
        printable_encodeMembers hs (next :: rest)⟩
    · simp

end

end Json

end SupervisorRpc
