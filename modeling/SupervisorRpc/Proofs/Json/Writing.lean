import SupervisorRpc.Proofs.Json.Members
import SupervisorRpc.Proofs.Json.Printable

/-! The writer keeps to the grammar: a plain value is written as a text that writes it, so the reader
gives the value back. -/

namespace SupervisorRpc

namespace Json

/-- A value that survives being written and read, with at most `depth` arrays and objects inside one
another: its numbers are integers of at most 4300 digits, its strings and keys hold no surrogate
pair as two halves, and no object has a key twice. -/
inductive Plain : (depth : Nat) → Json → Prop
  | null {depth : Nat} : Plain depth .null
  | bool {depth : Nat} (b : Bool) : Plain depth (.bool b)
  | integer {depth : Nat} {i : Int} (h : (Text.ofNat i.natAbs).length ≤ 4300) :
      Plain depth (.number (.int i))
  | string {depth : Nat} {t : Text} (h : t.Unpaired) : Plain depth (.string t)
  | array {depth : Nat} {items : List Json} (h : ∀ v ∈ items, Plain depth v) :
      Plain (depth + 1) (.array items)
  | object {depth : Nat} {members : List (Text × Json)} (distinct : (members.map Prod.fst).Nodup)
      (keys : ∀ m ∈ members, m.1.Unpaired) (values : ∀ m ∈ members, Plain depth m.2) :
      Plain (depth + 1) (.object members)

theorem Plain.mono {depth depth' : Nat} {v : Json} (h : Plain depth v) (hle : depth ≤ depth') :
    Plain depth' v := by
  induction h generalizing depth' with
  | null => exact .null
  | bool b => exact .bool b
  | integer h => exact .integer h
  | string h => exact .string h
  | array _ ih =>
    obtain ⟨depth', rfl⟩ := Nat.exists_eq_add_of_lt hle
    exact .array fun v hv => ih v hv (by omega)
  | object distinct keys _ ih =>
    obtain ⟨depth', rfl⟩ := Nat.exists_eq_add_of_lt hle
    exact .object distinct keys fun m hm => ih m hm (by omega)

/-! ### Strings -/

theorem hexValue?_hexDigit : ∀ n < 16, (Text.hexDigit n).hexValue? = some n := by decide

theorem unitWritten_unitEscape {n : Nat} (h : n < 0x10000) : UnitWritten n (unitEscape n) := by
  have digit : ∀ m, (Text.hexDigit (m % 16)).hexValue? = some (m % 16) := fun m =>
    hexValue?_hexDigit _ (Nat.mod_lt _ (by decide))
  have hn : n =
      ((n / 16 / 16 / 16 % 16 * 16 + n / 16 / 16 % 16) * 16 + n / 16 % 16) * 16 + n % 16 := by
    omega
  have := UnitWritten.mk (digit (n / 16 / 16 / 16)) (digit (n / 16 / 16)) (digit (n / 16)) (digit n)
  rw [← hn] at this
  exact this

theorem pointWritten_encodePoint (c : CodePoint) : PointWritten c (encodePoint c) := by
  rcases encodePoint_cases c with ⟨letter, hl, h⟩ | ⟨hc, hquote, hslash, h⟩ | ⟨hc, h⟩ | ⟨hc, h⟩
  · rw [h]
    exact .letter hl
  · rw [h]
    exact .plain (CodePoint.within_iff.mp hc).1 hquote hslash
  · rw [h]
    exact .unit (unitWritten_unitEscape hc)
  · have := c.isLt
    rw [h]
    exact .pair (by omega) (by omega) (by omega) (unitWritten_unitEscape (by omega))
      (unitWritten_unitEscape (by omega))

theorem stringWritten_encodeString {t : Text} (h : t.Unpaired) :
    StringWritten t (encodeString t) := by
  have points : ∀ t : Text, PointsWritten t (t.flatMap encodePoint) := by
    intro t
    induction t with
    | nil => exact .nil
    | cons c t ih => exact .cons (pointWritten_encodePoint c) ih
  exact .mk h (points t)

/-! ### Items and members -/

/-- Separators that a reader of blanks can do with. -/
structure Spacing.Readable (s : Spacing) : Prop where
  comma : ∃ blanks, Blanks blanks ∧ s.comma = point ',' :: blanks
  colon : ∃ blanks, Blanks blanks ∧ s.colon = point ':' :: blanks

theorem blanks_nil : Blanks [] := by simp [Blanks]

theorem compact_readable : compact.Readable :=
  ⟨⟨[], blanks_nil, rfl⟩, ⟨[], blanks_nil, rfl⟩⟩

theorem blanks_spaces (n : Nat) : Blanks (Text.spaces n) := fun _ hc =>
  .inl (List.eq_of_mem_replicate hc)

theorem spaced_readable : spaced.Readable :=
  ⟨⟨_, blanks_spaces 1, rfl⟩, ⟨_, blanks_spaces 1, rfl⟩⟩

theorem Padded.of {α : Type} {W : α → Text → Prop} {a : α} {t : Text} (h : W a t) :
    Padded W a t := by
  have := Padded.mk blanks_nil h blanks_nil
  rwa [List.nil_append, List.append_nil] at this

/-- What is written one after another, with a comma and blanks before each but the first, is separated
by commas. -/
theorem separated_flatMap {α : Type} {W : α → Text → Prop} {write : α → Text}
    {lead gap after : Text} (hlead : Blanks lead) (hgap : Blanks gap) (hafter : Blanks after) {a : α}
    {rest : List α} (h : ∀ b ∈ a :: rest, W b (write b)) :
    Separated (Padded W) (a :: rest)
      (lead ++ write a ++ rest.flatMap (fun b => point ',' :: (gap ++ write b)) ++ after) := by
  induction rest generalizing a lead with
  | nil =>
    rw [List.flatMap_nil, List.append_nil]
    exact .one (.mk hlead (h a List.mem_cons_self) hafter)
  | cons b rest ih =>
    have hrest := ih hgap fun c hc => h c (List.mem_cons_of_mem a hc)
    have hfirst := Padded.mk hlead (h a List.mem_cons_self) blanks_nil
    have hsplit := Separated.cons hfirst hrest
    simpa using hsplit

section

variable {s : Spacing} {inner : Json → Text → Prop}

theorem encodeItems_cons (s : Spacing) (v : Json) (items : List Json) :
    encodeItems s (v :: items) = encode s v ++ items.flatMap fun w => s.comma ++ encode s w := by
  induction items generalizing v with
  | nil =>
    unfold encodeItems
    exact (List.append_nil _).symm
  | cons w items ih =>
    rw [encodeItems, ih, List.flatMap_cons, List.append_assoc, List.append_assoc]
    simp

theorem separated_encodeItems (hs : s.Readable) {v : Json} {items : List Json}
    (h : ∀ w ∈ v :: items, inner w (encode s w)) :
    Separated (Padded inner) (v :: items) (encodeItems s (v :: items)) := by
  obtain ⟨blanks, hblanks, hcomma⟩ := hs.comma
  have hitems := separated_flatMap blanks_nil hblanks blanks_nil h
  rw [encodeItems_cons, hcomma]
  simpa using hitems

theorem memberWritten (hs : s.Readable) {m : Text × Json} (hkey : m.1.Unpaired) {t : Text}
    (h : inner m.2 t) : MemberWritten inner m (encodeString m.1 ++ s.colon ++ t) := by
  obtain ⟨blanks, hblanks, hcolon⟩ := hs.colon
  have := MemberWritten.mk (stringWritten_encodeString hkey) blanks_nil hblanks h
  rw [hcolon]
  simpa using this

theorem encodeMembers_cons (s : Spacing) (m : Text × Json) (members : List (Text × Json)) :
    encodeMembers s (m :: members) = encodeString m.1 ++ s.colon ++ encode s m.2 ++
      members.flatMap fun n => s.comma ++ (encodeString n.1 ++ s.colon ++ encode s n.2) := by
  induction members generalizing m with
  | nil =>
    unfold encodeMembers
    exact (List.append_nil _).symm
  | cons n members ih =>
    rw [encodeMembers, ih, List.flatMap_cons]
    · simp
    · simp

theorem separated_encodeMembers (hs : s.Readable) {m : Text × Json} {members : List (Text × Json)}
    (h : ∀ n ∈ m :: members,
      MemberWritten inner n (encodeString n.1 ++ s.colon ++ encode s n.2)) :
    Separated (Padded (MemberWritten inner)) (m :: members) (encodeMembers s (m :: members)) := by
  obtain ⟨blanks, hblanks, hcomma⟩ := hs.comma
  have hmembers := separated_flatMap blanks_nil hblanks blanks_nil h
  rw [encodeMembers_cons, hcomma]
  simpa using hmembers

end

/-! ### Whole values -/

theorem ScalarWritten.written {v : Json} {t : Text} (h : ScalarWritten v t) (depth : Nat) :
    Written depth v t := by
  cases depth with
  | zero => exact h
  | succ depth => exact .scalar h

theorem integerWritten_ofInt {i : Int} (h : (Text.ofNat i.natAbs).length ≤ 4300) :
    IntegerWritten i (Text.ofInt i) := by
  unfold Text.ofInt
  split
  · have := IntegerWritten.negative h
    rwa [show -(i.natAbs : Int) = i by omega] at this
  · have := IntegerWritten.plain h
    rwa [show (i.natAbs : Int) = i by omega] at this

/-- A plain value is written as the grammar says. -/
theorem written_encode {s : Spacing} (hs : s.Readable) {depth : Nat} {v : Json}
    (h : Plain depth v) : Written depth v (encode s v) := by
  induction h with
  | null => exact ScalarWritten.null.written _
  | bool b =>
    cases b with
    | false => exact ScalarWritten.false.written _
    | true => exact ScalarWritten.true.written _
  | integer h =>
    unfold encode
    exact (ScalarWritten.integer (integerWritten_ofInt h)).written _
  | string h =>
    unfold encode
    exact (ScalarWritten.string (stringWritten_encodeString h)).written _
  | @array depth items _ ih =>
    unfold encode
    cases items with
    | nil => exact .array (.empty blanks_nil)
    | cons v items => exact .array (.some (separated_encodeItems hs ih))
  | @object depth members distinct keys _ ih =>
    have hwritten : ObjectWritten (Written depth) members (encode s (.object members)) := by
      unfold encode
      cases members with
      | nil => exact .mk (.empty blanks_nil)
      | cons m members =>
        exact .mk (.some (separated_encodeMembers hs fun n hn =>
          memberWritten hs (keys n hn) (ih n hn)))
    have := Layer.object hwritten
    rwa [Members.ofList_of_nodup distinct] at this

end Json

end SupervisorRpc
