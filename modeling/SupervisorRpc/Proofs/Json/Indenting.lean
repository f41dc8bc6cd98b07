import SupervisorRpc.Proofs.Json.Image
import SupervisorRpc.Proofs.Json.Printable
import SupervisorRpc.Proofs.Json.Reading
import SupervisorRpc.Proofs.Json.Writing

/-! Writing on one line per item.  The line ends and the indentation are blanks between tokens, so what
is written at any level keeps to the grammar, and the reader gives the value back.  The text is ASCII
and does not end in a line end. -/

namespace SupervisorRpc

namespace Json

theorem blanks_lineBreak (level : Nat) : Blanks (lineBreak level) :=
  List.forall_mem_cons.mpr ⟨.inr (.inr (.inl rfl)), blanks_spaces _⟩

theorem indentedItems_eq (level : Nat) (items : List Json) :
    indentedItems level items =
      items.flatMap fun v => point ',' :: (lineBreak level ++ indentedAt level v) := by
  induction items with
  | nil =>
    unfold indentedItems
    rfl
  | cons v items ih =>
    rw [indentedItems, ih]
    rfl

theorem indentedMembers_eq (level : Nat) (members : List (Text × Json)) :
    indentedMembers level members = members.flatMap fun m =>
      point ',' :: (lineBreak level ++
        (encodeString m.1 ++ spaced.colon ++ indentedAt level m.2)) := by
  induction members with
  | nil =>
    unfold indentedMembers
    rfl
  | cons m members ih =>
    have hcolon : spaced.colon = text ": " := rfl
    rw [indentedMembers, ih, List.flatMap_cons, hcolon]
    simp only [List.append_assoc, List.cons_append]

theorem indentedAt_array (level : Nat) (v : Json) (items : List Json) :
    indentedAt level (.array (v :: items)) = openBracket ++
      (lineBreak (level + 1) ++ indentedAt (level + 1) v ++
        items.flatMap (fun w =>
          point ',' :: (lineBreak (level + 1) ++ indentedAt (level + 1) w)) ++
        lineBreak level) ++ closeBracket := by
  rw [indentedAt, indentedItems_eq]
  simp only [List.append_assoc]

theorem indentedAt_object (level : Nat) (m : Text × Json) (members : List (Text × Json)) :
    indentedAt level (.object (m :: members)) = openBrace ++
      (lineBreak (level + 1) ++
        (encodeString m.1 ++ spaced.colon ++ indentedAt (level + 1) m.2) ++
        members.flatMap (fun n => point ',' :: (lineBreak (level + 1) ++
          (encodeString n.1 ++ spaced.colon ++ indentedAt (level + 1) n.2))) ++
        lineBreak level) ++ closeBrace := by
  rw [indentedAt, indentedMembers_eq]
  simp only [List.append_assoc]
  rfl

/-- A value that has no values inside it is written the same on lines of its own. -/
theorem indentedAt_leaf {v : Json} (harray : ∀ w items, v ≠ .array (w :: items))
    (hobject : ∀ m members, v ≠ .object (m :: members)) (level : Nat) (s : Spacing) :
    indentedAt level v = encode s v := by
  cases v with
  | array items =>
    cases items with
    | nil =>
      unfold indentedAt encode encodeItems
      rfl
    | cons w items => exact absurd rfl (harray w items)
  | object members =>
    cases members with
    | nil =>
      unfold indentedAt encode encodeMembers
      rfl
    | cons m members => exact absurd rfl (hobject m members)
  | _ =>
    unfold indentedAt encode
    rfl

theorem written_leaf {depth : Nat} {v : Json} (h : Plain depth v)
    (harray : ∀ w items, v ≠ .array (w :: items)) (hobject : ∀ m members, v ≠ .object (m :: members))
    (level : Nat) : Written depth v (indentedAt level v) := by
  rw [indentedAt_leaf harray hobject level compact]
  exact written_encode compact_readable h

/-- A plain value is written as the grammar says, at every level of indentation. -/
theorem written_indentedAt {depth : Nat} {v : Json} (h : Plain depth v) (level : Nat) :
    Written depth v (indentedAt level v) := by
  -- What stands inside is indented one level more, so the induction is over all levels.
  induction h generalizing level with
  | null => exact written_leaf .null (by simp) (by simp) level
  | bool b => exact written_leaf (.bool b) (by simp) (by simp) level
  | integer h => exact written_leaf (.integer h) (by simp) (by simp) level
  | string h => exact written_leaf (.string h) (by simp) (by simp) level
  | @array depth items hitems ih =>
    cases items with
    | nil => exact written_leaf (.array hitems) (by simp) (by simp) level
    | cons v items =>
      rw [indentedAt_array]
      exact .array (.some (separated_flatMap (blanks_lineBreak _) (blanks_lineBreak _)
        (blanks_lineBreak _) fun w hw => ih w hw (level + 1)))
  | @object depth members distinct keys hvalues ih =>
    cases members with
    | nil => exact written_leaf (.object distinct keys hvalues) (by simp) (by simp) level
    | cons m members =>
      have hwritten : ObjectWritten (Written depth) (m :: members)
          (indentedAt level (.object (m :: members))) := by
        rw [indentedAt_object]
        exact .mk (.some (separated_flatMap (blanks_lineBreak _) (blanks_lineBreak _)
          (blanks_lineBreak _) fun n hn =>
            memberWritten spaced_readable (keys n hn) (ih n hn (level + 1))))
      have hobject := Layer.object hwritten
      rwa [Members.ofList_of_nodup distinct] at hobject

/-- Where line ends or other blanks come after it, a value that was written indented is read back. -/
theorem decode_indented {limit : Nat} {v : Json} (h : Plain limit v) {blanks : Text}
    (hblanks : Blanks blanks) : decode (indented v ++ blanks) limit = .ok v := by
  have hpadded := Padded.mk blanks_nil (written_indentedAt h 0) hblanks
  exact decode_of_written hpadded

/-! ### Code points -/

/-- Written on lines: nothing but printable code points and line ends. -/
def Lined (t : Text) : Prop := ∀ c ∈ t, c = point '\n' ∨ c.within 0x20 0x7E = true

instance (t : Text) : Decidable (Lined t) := inferInstanceAs (Decidable (∀ c ∈ t, _))

theorem lined_nil : Lined [] := by simp [Lined]

theorem lined_append_iff {t u : Text} : Lined (t ++ u) ↔ Lined t ∧ Lined u := List.forall_mem_append

theorem lined_cons_iff {c : CodePoint} {t : Text} :
    Lined (c :: t) ↔ (c = point '\n' ∨ c.within 0x20 0x7E = true) ∧ Lined t :=
  List.forall_mem_cons

theorem lined_of_printable {t : Text} (h : t.Printable) : Lined t := fun c hc => .inr (h c hc)

theorem lined_lineBreak (level : Nat) : Lined (lineBreak level) :=
  lined_cons_iff.mpr ⟨.inl rfl, lined_of_printable (.replicate (by decide) _)⟩

theorem Lined.isAscii {t : Text} (h : Lined t) : ∀ c ∈ t, c.isAscii = true := by
  intro c hc
  rcases h c hc with rfl | hprintable
  · decide
  · have := CodePoint.within_iff.mp hprintable
    rw [CodePoint.isAscii_iff]
    omega

theorem lined_encode (s : Spacing) (hs : s.Printable) (v : Json) : Lined (encode s v) :=
  lined_of_printable (printable_encode hs v)

theorem lined_encodeString (t : Text) : Lined (encodeString t) :=
  lined_of_printable (printable_encodeString t)

mutual

theorem lined_indentedAt (level : Nat) : (v : Json) → Lined (indentedAt level v)
  | .array (item :: rest) => by
    rw [indentedAt]
    simp only [lined_append_iff]
    exact ⟨⟨⟨⟨⟨by decide, lined_lineBreak _⟩, lined_indentedAt (level + 1) item⟩,
      lined_indentedItems (level + 1) rest⟩, lined_lineBreak _⟩, by decide⟩
  | .object ((key, value) :: rest) => by
    rw [indentedAt]
    simp only [lined_append_iff]
    exact ⟨⟨⟨⟨⟨⟨⟨by decide, lined_lineBreak _⟩, lined_encodeString key⟩, by decide⟩,
      lined_indentedAt (level + 1) value⟩, lined_indentedMembers (level + 1) rest⟩,
      lined_lineBreak _⟩, by decide⟩
  | .null | .bool _ | .number _ | .string _ | .array [] | .object [] => by
    rw [indentedAt_leaf (by simp) (by simp) level compact]
    exact lined_encode _ compact_printable _

theorem lined_indentedItems (level : Nat) : (items : List Json) → Lined (indentedItems level items)
  | [] => by
    unfold indentedItems
    exact lined_nil
  | item :: rest => by
    rw [indentedItems]
    simp only [lined_append_iff, lined_cons_iff]
    exact ⟨⟨⟨by decide, lined_lineBreak _⟩, lined_indentedAt level item⟩,
      lined_indentedItems level rest⟩

theorem lined_indentedMembers (level : Nat) :
    (members : List (Text × Json)) → Lined (indentedMembers level members)
  | [] => by
    unfold indentedMembers
    exact lined_nil
  | (key, value) :: rest => by
    rw [indentedMembers]
    simp only [lined_append_iff, lined_cons_iff]
    exact ⟨⟨⟨⟨⟨by decide, lined_lineBreak _⟩, lined_encodeString key⟩, by decide⟩,
      lined_indentedAt level value⟩, lined_indentedMembers level rest⟩

end

/-- What is written indented ends in a bracket or in printable text, never in a line end. -/
theorem getLast?_indentedAt (level : Nat) (v : Json) :
    (indentedAt level v).getLast? ≠ some (point '\n') := by
  intro hlast
  by_cases harray : ∃ w items, v = .array (w :: items)
  · obtain ⟨w, items, rfl⟩ := harray
    have hclose : closeBracket = [point ']'] := rfl
    rw [indentedAt_array, hclose, List.getLast?_concat] at hlast
    revert hlast
    decide
  by_cases hobject : ∃ m members, v = .object (m :: members)
  · obtain ⟨m, members, rfl⟩ := hobject
    have hclose : closeBrace = [point '\x7d'] := rfl
    rw [indentedAt_object, hclose, List.getLast?_concat] at hlast
    revert hlast
    decide
  · rw [indentedAt_leaf (fun w items h => harray ⟨w, items, h⟩)
      (fun m members h => hobject ⟨m, members, h⟩) level compact] at hlast
    exact (printable_encode compact_printable v).newline_notMem (List.mem_of_getLast? hlast)

end Json

end SupervisorRpc
