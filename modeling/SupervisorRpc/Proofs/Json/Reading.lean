import SupervisorRpc.Proofs.Json.Strings
import SupervisorRpc.Proofs.Text.Decimal

/-! The reader accepts the grammar: a text that writes a value, with blanks around it, is read as that
value.  In front of more text a value is read up to its end, provided that the text after it could
follow a value. -/

namespace SupervisorRpc

namespace Json

/-! ### Blanks -/

theorem Blanks.isBlank {t : Text} (h : Blanks t) : ∀ c ∈ t, isBlank c = true := by
  intro c hc
  have := h c hc
  simp only [Json.isBlank, Bool.or_eq_true, decide_eq_true_eq]
  tauto

theorem skipBlanks_suffix (t : Text) : skipBlanks t <:+ t := List.dropWhile_suffix _

theorem skipBlanks_append {before : Text} (h : Blanks before) (t : Text) :
    skipBlanks (before ++ t) = skipBlanks t :=
  List.dropWhile_append_of_pos h.isBlank

theorem skipBlanks_cons {c : CodePoint} (h : isBlank c = false) (t : Text) :
    skipBlanks (c :: t) = c :: t := by
  simp [skipBlanks, h]

theorem skipBlanks_blanks {t : Text} (h : Blanks t) : skipBlanks t = [] := by
  have := skipBlanks_append h []
  rwa [List.append_nil] at this

/-! ### What follows a value -/

/-- After a value comes the end, a blank, a comma or a closing bracket. -/
def Ended (rest : Text) : Prop :=
  ∀ c ∈ rest.head?, isBlank c = true ∨ c = point ',' ∨ c = point ']' ∨ c = point '\x7d'

theorem ended_blanks_append {before : Text} (h : Blanks before) {t : Text} (ht : Ended t) :
    Ended (before ++ t) := by
  cases before with
  | nil => exact ht
  | cons c before =>
    intro d hd
    obtain rfl : c = d := by simpa using hd
    exact .inl (h.isBlank c (by simp))

theorem ended_cons {c : CodePoint} (h : c = point ',' ∨ c = point ']' ∨ c = point '\x7d')
    (t : Text) : Ended (c :: t) := by
  intro d hd
  obtain rfl : c = d := by simpa using hd
  exact .inr h

theorem ended_nil : Ended [] := by simp [Ended]

/-- What follows a value goes on with no number. -/
theorem Ended.notNumber {c : CodePoint} {rest : Text} (h : Ended (c :: rest)) :
    c.isAsciiDigit = false ∧ c ≠ point '.' ∧ c ≠ point 'e' ∧ c ≠ point 'E' := by
  have hc := h c rfl
  simp only [isBlank, Bool.or_eq_true, decide_eq_true_eq] at hc
  rcases hc with (((rfl | rfl) | rfl) | rfl) | rfl | rfl | rfl <;> decide

/-! ### Numbers -/

theorem digits_ofNat (n : Nat) {rest : Text} (h : Ended rest) :
    digits (Text.ofNat n ++ rest) = (Text.ofNat n, rest) := by
  have all : ∀ c ∈ Text.ofNat n, c.isAsciiDigit = true := fun c =>
    Text.isAsciiDigit_of_mem_ofNat
  rw [digits, List.takeWhile_append_of_pos all, List.dropWhile_append_of_pos all]
  cases rest with
  | nil => simp
  | cons c rest => simp [h.notNumber.1]

theorem wholeDigits_ofNat (n : Nat) {rest : Text} (h : Ended rest) :
    wholeDigits (Text.ofNat n ++ rest) = (Text.ofNat n, rest) := by
  rcases Nat.eq_zero_or_pos n with rfl | hn
  · rw [Text.ofNat_zero]
    rfl
  · obtain ⟨c, ds, hcs, -⟩ := Text.ofNat_eq_digit_cons n
    have hc : c ≠ point '0' := fun hc => Text.head?_ofNat_ne_zero hn (by rw [hcs, hc]; rfl)
    have hdigits := digits_ofNat n h
    rw [hcs, List.cons_append] at hdigits ⊢
    rw [wholeDigits, if_neg hc, hdigits]

theorem fractionDigits_ended {rest : Text} (h : Ended rest) : fractionDigits rest = ([], rest) := by
  cases rest with
  | nil => rfl
  | cons c rest => simp [fractionDigits, h.notNumber.2.1]

theorem exponent?_ended {rest : Text} (h : Ended rest) : exponent? rest = none := by
  cases rest with
  | nil => rfl
  | cons c rest =>
    obtain ⟨-, -, he, hE⟩ := h.notNumber
    simp [exponent?, he, hE]

theorem parseNumber_of_written {i : Int} {t : Text} (h : IntegerWritten i t) {rest : Text}
    (hrest : Ended rest) : parseNumber (t ++ rest) = .ok (.number (.int i), rest) := by
  cases h with
  | @plain n hn =>
    obtain ⟨c, ds, hcs, hdigit⟩ := Text.ofNat_eq_digit_cons n
    have hc : c ≠ point '-' := by
      rintro rfl
      exact absurd hdigit (by decide)
    have hwhole := wholeDigits_ofNat n hrest
    have hvalue := Text.digitsValue_ofNat n
    have hlimit : ¬digitLimit < (Text.ofNat n).length := Nat.not_lt.mpr hn
    rw [hcs] at hwhole hvalue hlimit ⊢
    rw [List.cons_append] at hwhole ⊢
    unfold parseNumber
    simp only [if_neg hc, hwhole, fractionDigits_ended hrest, exponent?_ended hrest, hvalue,
      if_neg hlimit]
    simp
  | @negative n hn =>
    have hlimit : ¬digitLimit < (Text.ofNat n).length := Nat.not_lt.mpr hn
    rw [List.cons_append, parseNumber]
    simp only [↓reduceIte, wholeDigits_ofNat n hrest, fractionDigits_ended hrest,
      exponent?_ended hrest, Text.digitsValue_ofNat, if_neg hlimit, if_neg (Text.ofNat_ne_nil n)]

/-- One of the first two code points of an integer is a digit. -/
theorem IntegerWritten.digit {i : Int} {t : Text} (h : IntegerWritten i t) :
    ∃ c ∈ t.take 2, c.isAsciiDigit = true := by
  cases h with
  | @plain n =>
    obtain ⟨c, u, hcu, hc⟩ := Text.ofNat_eq_digit_cons n
    exact ⟨c, by simp [hcu], hc⟩
  | @negative n =>
    obtain ⟨c, u, hcu, hc⟩ := Text.ofNat_eq_digit_cons n
    exact ⟨c, by simp [hcu], hc⟩

/-! ### Values without values inside them -/

/-- A code point that may begin a value. -/
structure Opening (c : CodePoint) : Prop where
  notBlank : isBlank c = false
  notClose : c ≠ point ']'
  notMark : c ≠ byteOrderMark

theorem IntegerWritten.head {i : Int} {t : Text} (h : IntegerWritten i t) :
    ∃ c u, t = c :: u ∧ Opening c ∧ c ≠ point '"' ∧ c ≠ point '[' ∧ c ≠ point '{' := by
  have digit : ∀ {c : CodePoint}, c.isAsciiDigit = true →
      Opening c ∧ c ≠ point '"' ∧ c ≠ point '[' ∧ c ≠ point '{' := by
    intro c hc
    have ne : ∀ d : CodePoint, d.isAsciiDigit = false → c ≠ d := by
      rintro d hd rfl
      exact absurd hc (by simp [hd])
    have hblank : isBlank c = false := by
      simp [isBlank, ne (point ' ') (by decide), ne (point '\t') (by decide),
        ne (point '\n') (by decide), ne (point '\r') (by decide)]
    exact ⟨⟨hblank, ne _ (by decide), ne _ (by decide)⟩, ne _ (by decide), ne _ (by decide),
      ne _ (by decide)⟩
  cases h with
  | @plain n =>
    obtain ⟨c, u, hcu, hc⟩ := Text.ofNat_eq_digit_cons n
    exact ⟨c, u, hcu, digit hc⟩
  | @negative n => exact ⟨_, _, rfl, ⟨by decide, by decide, by decide⟩, by decide⟩

/-- No word has a digit among its first two code points. -/
theorem words_notDigit : ∀ word ∈ words.map Prod.fst,
    2 ≤ word.length ∧ ∀ c ∈ word.take 2, c.isAsciiDigit = false := by
  decide

theorem parseScalar_of_digit {t : Text} (h : ∃ c ∈ t.take 2, c.isAsciiDigit = true) :
    parseScalar t = parseNumber t := by
  have none : words.findSome? (fun word => (after? word.1 t).map fun rest => (word.2, rest)) =
      none := by
    rw [List.findSome?_eq_none_iff]
    intro word hword
    obtain ⟨hlength, hdigit⟩ := words_notDigit word.1 (List.mem_map_of_mem hword)
    have hnot : ¬word.1 <+: t := by
      rintro ⟨u, rfl⟩
      obtain ⟨c, hc, hd⟩ := h
      rw [List.take_append_of_le_length hlength] at hc
      exact absurd hd (by simp [hdigit c hc])
    simp [after?, hnot]
  rw [parseScalar, none]

theorem parseValue_scalar {c : CodePoint} (hquote : c ≠ point '"') (hbracket : c ≠ point '[')
    (hbrace : c ≠ point '{') (depth : Nat) (t : Text) :
    parseValue depth (c :: t) = parseScalar (c :: t) := by
  cases depth <;> simp [parseValue, hquote, hbracket, hbrace]

theorem parseValue_of_scalarWritten {v : Json} {t : Text} (h : ScalarWritten v t) (depth : Nat)
    {rest : Text} (hrest : Ended rest) : parseValue depth (t ++ rest) = .ok (v, rest) := by
  cases h with
  | null => cases depth <;> rfl
  | true => cases depth <;> rfl
  | false => cases depth <;> rfl
  | integer h =>
    have hnumber := parseNumber_of_written h hrest
    have hdigit : ∃ c ∈ (t ++ rest).take 2, c.isAsciiDigit = true := by
      obtain ⟨c, hc, hd⟩ := h.digit
      exact ⟨c, by rw [List.take_append]; exact List.mem_append_left _ hc, hd⟩
    obtain ⟨c, u, rfl, -, hquote, hbracket, hbrace⟩ := h.head
    rw [List.cons_append] at *
    rw [parseValue_scalar hquote hbracket hbrace, parseScalar_of_digit hdigit, hnumber]
  | string h =>
    obtain ⟨u, hu, hread⟩ := stringBody_of_written h rest
    rw [hu]
    cases depth <;> simp [parseValue, hread, Except.map]

/-! ### Items and members -/

section

variable {inner : Json → Text → Prop} {item : Text → Parsed Json}

/-- The parser `item` reads what `inner` writes. -/
structure Reads (inner : Json → Text → Prop) (item : Text → Parsed Json) : Prop where
  read : ∀ {v t rest}, inner v t → Ended rest → item (t ++ rest) = .ok (v, rest)
  opening : ∀ {v t}, inner v t → ∃ c u, t = c :: u ∧ Opening c

theorem Reads.notClose (h : Reads inner item) {v : Json} {t : Text} (hv : inner v t) :
    ∃ c u, t = c :: u ∧ isBlank c = false ∧ c ≠ point ']' := by
  obtain ⟨c, u, hcu, hc⟩ := h.opening hv
  exact ⟨c, u, hcu, hc.notBlank, hc.notClose⟩

theorem Reads.padded (h : Reads inner item) {v : Json} {t : Text} (hv : Padded inner v t)
    {rest : Text} (hrest : Ended rest) :
    ∃ after, Blanks after ∧ item (skipBlanks (t ++ rest)) = .ok (v, after ++ rest) := by
  cases hv with
  | @mk before t after hbefore hv hafter =>
    obtain ⟨c, u, rfl, hc⟩ := h.opening hv
    refine ⟨after, hafter, ?_⟩
    rw [List.append_assoc, List.append_assoc, skipBlanks_append hbefore, List.cons_append,
      skipBlanks_cons hc.notBlank, ← List.cons_append, h.read hv (ended_blanks_append hafter hrest)]

theorem itemsFrom_of_separated (h : Reads inner item) {items : List Json} {t : Text}
    (hitems : Separated (Padded inner) items t) {room read rest : List _}
    (hroom : items.length ≤ room.length) :
    itemsFrom item room read (skipBlanks (t ++ point ']' :: rest)) =
      .ok (read.reverse ++ items, rest) := by
  induction hitems generalizing room read with
  | one hv =>
    obtain ⟨after, hafter, hread⟩ := h.padded hv (ended_cons (.inr (.inl rfl)) rest)
    cases room with
    | nil => simp at hroom
    | cons _ room =>
      rw [itemsFrom, hread]
      simp [skipBlanks_append hafter, skipBlanks_cons (show isBlank (point ']') = false by decide)]
  | @cons v vs t u hv _ ih =>
    rw [List.append_assoc, List.cons_append]
    obtain ⟨after, hafter, hread⟩ := h.padded hv (ended_cons (.inl rfl) (u ++ point ']' :: rest))
    cases room with
    | nil => simp at hroom
    | cons _ room =>
      have hcomma : point ',' ≠ point ']' := by decide
      rw [itemsFrom, hread]
      simp only [skipBlanks_append hafter,
        skipBlanks_cons (show isBlank (point ',') = false by decide), if_neg hcomma, if_true]
      rw [ih (by simpa using hroom)]
      simp

theorem Reads.member (h : Reads inner item) {m : Text × Json} {t : Text}
    (hm : Padded (MemberWritten inner) m t) {rest : Text} (hrest : Ended rest) :
    ∃ afterKey after, Blanks after ∧ memberKey (skipBlanks (t ++ rest)) = .ok (m.1, afterKey) ∧
      item afterKey = .ok (m.2, after ++ rest) := by
  cases hm with
  | @mk before t after hbefore hm hafter =>
    cases hm with
    | @mk key k gap lead t v hkey hgap hlead hv =>
      obtain ⟨c, u, rfl, hc⟩ := h.opening hv
      refine ⟨c :: u ++ (after ++ rest), after, hafter, ?_,
        h.read hv (ended_blanks_append hafter hrest)⟩
      obtain ⟨w, hw, hread⟩ :=
        stringBody_of_written hkey (gap ++ point ':' :: (lead ++ (c :: u ++ (after ++ rest))))
      have hsplit : before ++ (k ++ gap ++ point ':' :: lead ++ c :: u) ++ after ++ rest =
          before ++ (k ++ (gap ++ point ':' :: (lead ++ (c :: u ++ (after ++ rest))))) := by
        simp
      rw [hsplit, skipBlanks_append hbefore, hw, skipBlanks_cons (by decide), memberKey]
      simp only [if_true, hread, skipBlanks_append hgap,
        skipBlanks_cons (show isBlank (point ':') = false by decide), skipBlanks_append hlead]
      rw [List.cons_append, skipBlanks_cons hc.notBlank]

theorem membersFrom_of_separated (h : Reads inner item) {members : List (Text × Json)} {t : Text}
    (hmembers : Separated (Padded (MemberWritten inner)) members t) {room read rest : List _}
    (hroom : members.length ≤ room.length) :
    membersFrom item room read (skipBlanks (t ++ point '\x7d' :: rest)) =
      .ok (read.reverse ++ members, rest) := by
  induction hmembers generalizing room read with
  | one hm =>
    obtain ⟨afterKey, after, hafter, hkey, hread⟩ := h.member hm (ended_cons (.inr (.inr rfl)) rest)
    cases room with
    | nil => simp at hroom
    | cons _ room =>
      rw [membersFrom, hkey]
      simp [hread, skipBlanks_append hafter,
        skipBlanks_cons (show isBlank (point '\x7d') = false by decide)]
  | @cons m ms t u hm _ ih =>
    rw [List.append_assoc, List.cons_append]
    obtain ⟨afterKey, after, hafter, hkey, hread⟩ :=
      h.member hm (ended_cons (.inl rfl) (u ++ point '\x7d' :: rest))
    cases room with
    | nil => simp at hroom
    | cons _ room =>
      have hcomma : point ',' ≠ point '\x7d' := by decide
      rw [membersFrom, hkey]
      simp only [hread, skipBlanks_append hafter,
        skipBlanks_cons (show isBlank (point ',') = false by decide), if_neg hcomma, if_true]
      rw [ih (by simpa using hroom)]
      simp

/-- What is separated by commas begins, after blanks, as its first part does, and is long enough to be
the room for reading its parts. -/
theorem Separated.head {α : Type} {W : α → Text → Prop} {close : CodePoint} {as : List α} {t : Text}
    (h : Separated (Padded W) as t)
    (hopen : ∀ {a t}, W a t → ∃ c u, t = c :: u ∧ isBlank c = false ∧ c ≠ close) (rest : Text) :
    ∃ c u, skipBlanks (t ++ rest) = c :: u ∧ c ≠ close ∧ as.length ≤ u.length + 1 := by
  have padded : ∀ {a t}, Padded W a t → ∀ rest, ∃ c u, skipBlanks (t ++ rest) = c :: (u ++ rest) ∧
      c ≠ close := by
    rintro a _ ⟨hbefore, ha, -⟩ rest
    obtain ⟨c, u, rfl, hc, hclose⟩ := hopen ha
    rw [List.append_assoc, List.append_assoc, skipBlanks_append hbefore, List.cons_append,
      skipBlanks_cons hc]
    exact ⟨c, _, by rw [List.append_assoc], hclose⟩
  induction h generalizing rest with
  | one ha =>
    obtain ⟨c, u, hskip, hc⟩ := padded ha rest
    exact ⟨c, u ++ rest, hskip, hc, by simp⟩
  | @cons a as t u ha _ ih =>
    obtain ⟨c, v, hskip, hc⟩ := padded ha (point ',' :: (u ++ rest))
    obtain ⟨d, w, hnext, -, hlength⟩ := ih rest
    -- The rest is long enough without the blanks in front of it, so it is with them.
    refine ⟨c, v ++ point ',' :: (u ++ rest), by simpa using hskip, hc, ?_⟩
    have hle := (List.dropWhile_sublist isBlank (l := u ++ rest)).length_le
    rw [show (u ++ rest).dropWhile isBlank = d :: w from hnext] at hle
    simp only [List.length_cons, List.length_append] at hle ⊢
    omega

theorem arrayBody_of_listed (h : Reads inner item) {items : List Json} {t : Text}
    (hitems : Listed inner items t) (rest : Text) :
    arrayBody item (t ++ point ']' :: rest) = .ok (items, rest) := by
  cases hitems with
  | empty ht =>
    rw [arrayBody, skipBlanks_append ht, skipBlanks_cons (by decide)]
    simp
  | some hitems =>
    obtain ⟨c, u, hskip, hc, hroom⟩ := hitems.head h.notClose (point ']' :: rest)
    rw [arrayBody, hskip]
    simp only [if_neg hc]
    rw [← hskip, itemsFrom_of_separated h hitems (by rw [hskip]; exact hroom)]
    rfl

theorem MemberWritten.head {m : Text × Json} {t : Text} (h : MemberWritten inner m t) :
    ∃ c u, t = c :: u ∧ isBlank c = false ∧ c ≠ point '\x7d' := by
  cases h with
  | mk hkey _ _ _ =>
    cases hkey
    exact ⟨_, _, rfl, by decide, by decide⟩

theorem objectBody_of_listed (h : Reads inner item) {members : List (Text × Json)} {t : Text}
    (hmembers : Listed (MemberWritten inner) members t) (rest : Text) :
    objectBody item (t ++ point '\x7d' :: rest) = .ok (members, rest) := by
  cases hmembers with
  | empty ht =>
    rw [objectBody, skipBlanks_append ht, skipBlanks_cons (by decide)]
    simp
  | some hmembers =>
    obtain ⟨c, u, hskip, hc, hroom⟩ := hmembers.head MemberWritten.head (point '\x7d' :: rest)
    rw [objectBody, hskip]
    simp only [if_neg hc]
    rw [← hskip, membersFrom_of_separated h hmembers (by rw [hskip]; exact hroom)]
    rfl

end

/-! ### Whole values -/

theorem ScalarWritten.head {v : Json} {t : Text} (h : ScalarWritten v t) :
    ∃ c u, t = c :: u ∧ Opening c := by
  cases h with
  | null | true | false => exact ⟨_, _, rfl, by decide, by decide, by decide⟩
  | integer h =>
    obtain ⟨c, u, hcu, hc, -⟩ := h.head
    exact ⟨c, u, hcu, hc⟩
  | string h =>
    cases h
    exact ⟨_, _, rfl, by decide, by decide, by decide⟩

theorem Written.head {depth : Nat} {v : Json} {t : Text} (h : Written depth v t) :
    ∃ c u, t = c :: u ∧ Opening c := by
  cases depth with
  | zero => exact ScalarWritten.head h
  | succ depth =>
    cases h with
    | scalar h => exact h.head
    | array _ => exact ⟨_, _, rfl, by decide, by decide, by decide⟩
    | object h =>
      cases h
      exact ⟨_, _, rfl, by decide, by decide, by decide⟩

/-- The reader of values reads what the grammar writes, in front of anything that may follow. -/
theorem parseValue_of_written (depth : Nat) : Reads (Written depth) (parseValue depth) := by
  refine ⟨?_, Written.head⟩
  -- What stands inside brackets is read at one depth less, where the induction hypothesis reads it.
  induction depth with
  | zero => exact fun h hrest => parseValue_of_scalarWritten h 0 hrest
  | succ depth ih =>
    intro v t rest h hrest
    have inside : Reads (Written depth) (parseValue depth) := ⟨ih, Written.head⟩
    cases h with
    | scalar h => exact parseValue_of_scalarWritten h (depth + 1) hrest
    | @array items t h =>
      have hquote : point '[' ≠ point '"' := by decide
      rw [List.append_assoc, List.cons_append, parseValue, if_neg hquote, if_pos rfl]
      rw [List.singleton_append, arrayBody_of_listed inside h]
      rfl
    | object h =>
      cases h with
      | @mk t h =>
        have hquote : point '\x7b' ≠ point '"' := by decide
        have hbracket : point '\x7b' ≠ point '[' := by decide
        rw [List.append_assoc, List.cons_append, parseValue, if_neg hquote, if_neg hbracket,
          if_pos rfl]
        rw [List.singleton_append, objectBody_of_listed inside h]
        rfl

/-- A text that writes a value, with blanks around it, is read as that value. -/
theorem decode_of_written {limit : Nat} {v : Json} {t : Text} (h : Padded (Written limit) v t) :
    decode t limit = .ok v := by
  cases h with
  | @mk before t after hbefore h hafter =>
    have hread := (parseValue_of_written limit).read h
      (ended_blanks_append hafter ended_nil)
    obtain ⟨c, u, rfl, hc⟩ := h.head
    have hmark : (before ++ c :: u ++ after).head? ≠ some byteOrderMark := by
      cases before with
      | nil => simpa using hc.notMark
      | cons b before =>
        intro hb
        obtain rfl : b = byteOrderMark := by simpa using hb
        exact absurd (hbefore.isBlank byteOrderMark List.mem_cons_self) (by decide)
    rw [decode, if_neg hmark, List.append_assoc, skipBlanks_append hbefore, List.cons_append,
      skipBlanks_cons hc.notBlank]
    rw [List.append_nil] at hread
    rw [← List.cons_append, hread]
    simp only [skipBlanks_blanks hafter]

end Json

end SupervisorRpc
