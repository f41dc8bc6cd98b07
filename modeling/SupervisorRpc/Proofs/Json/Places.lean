import SupervisorRpc.Proofs.Json.Image

/-! The places that complaints are about.  A parser leaves an end of the text that it is given, and what it
complains of stands at such an end, which may be empty.  So a complaint about a whole text is about a
place in it or right behind it, and what stands there is to blame. -/

namespace SupervisorRpc

namespace Json

/-- A text that begins like a value: with a quote, a bracket or a brace, with a word, or with a digit that
may have a minus sign before it. -/
inductive BeginsValue : Text → Prop
  | mark {t : Text} (h : Delimited t) : BeginsValue t
  | word {t : Text} {word : Text × Json} (hword : word ∈ words) (h : word.1 <+: t) : BeginsValue t
  | digit {c : CodePoint} {rest : Text} (h : c.isAsciiDigit = true) : BeginsValue (c :: rest)
  | negative {c : CodePoint} {rest : Text} (h : c.isAsciiDigit = true) :
      BeginsValue (point '-' :: c :: rest)

theorem not_beginsValue_nil : ¬BeginsValue [] := by
  intro h
  cases h with
  | mark h =>
    obtain ⟨c, hc, -⟩ := h
    cases hc
  | word hword h =>
    have hwords : ∀ word ∈ words.map Prod.fst, word ≠ [] := by decide
    exact hwords _ (List.mem_map_of_mem hword) (List.prefix_nil.mp h)

/-- A text that begins with no blank. -/
def Trimmed (t : Text) : Prop := ∀ c ∈ t.head?, isBlank c = false

/-- What stands where a complaint is made: not what is lacking, or else what is bad or one too many.
Where the complaint is that a string has no end, or about an escape, its beginning stands there. -/
def Complaint.Stands : Complaint → Text → Prop
  | value, t => ¬BeginsValue t
  | name, t => t.head? ≠ some (point '"')
  | colon, t => Trimmed t ∧ t.head? ≠ some (point ':')
  | comma, t => Trimmed t ∧ t.head? ≠ some (point ',')
  | unterminated, t => t.head? = some (point '"')
  | control, t => ∃ c ∈ t.head?, c.val < 0x20
  | escape, t => t.head? = some (point '\\')
  | hexEscape, t => t.head? = some (point 'u')
  | extra, t => Trimmed t ∧ t ≠ []
  | byteOrderMark, t => t.head? = some Json.byteOrderMark

/-- A flaw of `t`; a complaint is about an end of it. -/
def Flaw.Within (t : Text) : Flaw → Prop
  | misplaced complaint remaining =>
    ∃ rest, rest <:+ t ∧ rest.length = remaining ∧ complaint.Stands rest
  | _ => True

section

variable {α β : Type}

/-- The rest is an end of `t`, and so is the place of a complaint. -/
def Placed (t : Text) : Parsed α → Prop
  | .ok r => r.2 <:+ t
  | .error flaw => flaw.Within t

variable {t u : Text} {r : Parsed α}

theorem Flaw.Within.of_suffix {flaw : Flaw} (h : flaw.Within t) (hsuffix : t <:+ u) :
    flaw.Within u := by
  cases flaw with
  | misplaced complaint remaining =>
    obtain ⟨rest, hrest, hstands⟩ := h
    exact ⟨rest, hrest.trans hsuffix, hstands⟩
  | digits _ => trivial
  | depth _ => trivial

theorem Placed.of_suffix (h : Placed t r) (hsuffix : t <:+ u) : Placed u r := by
  cases r with
  | ok r => exact List.IsSuffix.trans h hsuffix
  | error flaw => exact Flaw.Within.of_suffix h hsuffix

theorem Placed.map {f : α → β} (h : Placed t r) : Placed t (r.map fun p => (f p.1, p.2)) := by
  cases r with
  | ok r => exact h
  | error flaw => exact h

theorem Placed.bind {k : α × Text → Parsed β} (h : Placed t r)
    (hk : ∀ a {rest}, rest <:+ t → Placed rest (k (a, rest))) : Placed t (r.bind k) := by
  cases r with
  | ok r => exact (hk r.1 h).of_suffix h
  | error flaw => exact h

theorem placed_complain {complaint : Complaint} (hsuffix : t <:+ u) (h : complaint.Stands t) :
    Placed u (complain complaint t : Parsed α) := ⟨t, hsuffix, rfl, h⟩

end

theorem trimmed_nil : Trimmed [] := by simp [Trimmed]

theorem trimmed_skipBlanks (t : Text) : Trimmed (skipBlanks t) := by
  intro c hc
  have hhead := List.head?_dropWhile_not isBlank t
  rw [← skipBlanks, Option.mem_def.mp hc] at hhead
  simpa using hhead

/-! ### Strings -/

/-- What the reader of a string goes back to is an end of `start` that begins with the backslash, or with
the `u`, of the escape that is read. -/
def StringPlace.Within (start : Text) : StringPlace → Prop
  | between _ => True
  | escape _ back => back <:+ start ∧ back.head? = some (point '\\')
  | unit _ _ _ back => back <:+ start ∧ back.head? = some (point 'u')

theorem placed_stringFrom {start t read : Text} {place : StringPlace}
    (hstart : start.head? = some (point '"')) (hplace : place.Within start) (ht : t <:+ start) :
    Placed start (stringFrom start place read t) := by
  have hunterminated : Placed start (complain .unterminated start : Parsed Text) :=
    placed_complain (List.suffix_refl start) hstart
  induction t generalizing place read with
  | nil =>
    cases place with
    | between _ => exact hunterminated
    | escape _ _ => exact hunterminated
    | unit _ _ _ _ => exact placed_complain hplace.1 hplace.2
  | cons c t ih =>
    have ht' : t <:+ start := (List.suffix_cons c t).trans ht
    cases place with
    | between half =>
      rw [stringFrom]
      split
      · exact ht'
      split
      · next hescape => exact ih ⟨ht, congrArg some hescape⟩ ht'
      split
      · next hcontrol => exact placed_complain ht ⟨c, rfl, hcontrol⟩
      · exact ih trivial ht'
    | escape half since =>
      rw [stringFrom]
      split
      · next hunit => exact ih ⟨ht, congrArg some hunit⟩ ht'
      · cases escaped? c with
        | some d => exact ih trivial ht'
        | none => exact placed_complain hplace.1 hplace.2
    | unit half left value since =>
      have hhex : Placed start (complain .hexEscape since : Parsed Text) :=
        placed_complain hplace.1 hplace.2
      rw [stringFrom]
      cases c.hexValue? with
      | none => exact hhex
      | some digit =>
        dsimp only
        split
        · split
          · exact hhex
          · exact ih trivial ht'
        · exact ih hplace ht'

theorem placed_stringBody (t : Text) : Placed (point '"' :: t) (stringBody t) :=
  placed_stringFrom rfl trivial (List.suffix_cons _ t)

/-! ### Numbers and words -/

theorem wholeDigits_ne_nil {c : CodePoint} (h : c.isAsciiDigit = true) (t : Text) :
    (wholeDigits (c :: t)).1 ≠ [] := by
  rw [wholeDigits]
  split
  · simp
  · simp [digits, h]

theorem placed_magnitude {negative : Bool} {t unsigned : Text} (hsuffix : unsigned <:+ t)
    (hvalue : (wholeDigits unsigned).1 = [] → ¬BeginsValue t) :
    Placed t (magnitude negative t unsigned) := by
  have hwhole := (wholeDigits_suffix unsigned).trans hsuffix
  have hfraction := (fractionDigits_suffix (wholeDigits unsigned).2).trans hwhole
  simp only [magnitude]
  split
  next hnone => exact placed_complain (List.suffix_refl t) (hvalue hnone)
  split
  · split
    · trivial
    · exact hwhole
  · cases hexponent : exponent? (fractionDigits (wholeDigits unsigned).2).2 with
    | none => exact hfraction
    | some found => exact (exponent?_suffix hexponent).trans hfraction

theorem placed_parseNumber {t : Text} (hmark : ¬Delimited t)
    (hword : ∀ word ∈ words, ¬word.1 <+: t) : Placed t (parseNumber t) := by
  cases t with
  | nil => exact placed_complain (List.suffix_refl []) not_beginsValue_nil
  | cons c t =>
    rw [parseNumber_cons]
    split
    next hminus =>
      refine placed_magnitude (List.suffix_cons c t) fun hnone h => ?_
      cases h with
      | mark h => exact hmark h
      | word hmem h => exact hword _ hmem h
      | digit h => exact absurd h (hminus ▸ by decide)
      | negative h => exact wholeDigits_ne_nil h _ hnone
    next hminus =>
      refine placed_magnitude (List.suffix_refl _) fun hnone h => ?_
      cases h with
      | mark h => exact hmark h
      | word hmem h => exact hword _ hmem h
      | digit h => exact wholeDigits_ne_nil h _ hnone
      | negative h => exact hminus rfl

theorem placed_parseScalar {t : Text} (h : ¬Delimited t) : Placed t (parseScalar t) := by
  by_cases hword : ∃ word ∈ words, word.1 <+: t
  · obtain ⟨word, hmem, rest, rfl⟩ := hword
    rw [parseScalar_word hmem]
    exact List.suffix_append _ _
  · simp only [not_exists, not_and] at hword
    rcases parseScalar_cases t with ⟨word, hmem, rest, rfl⟩ | hnumber
    · exact absurd (List.prefix_append _ _) (hword word hmem)
    · rw [hnumber]
      exact placed_parseNumber h hword

/-! ### Items and members -/

section

variable {α : Type}

theorem placed_continued {close : CodePoint} {done : α} {next : Text → Parsed α} {rest : Text}
    (hnext : ∀ {t}, t <:+ rest → t.length < rest.length → Placed t (next t)) :
    Placed rest (continued close done next rest) := by
  have hskip := skipBlanks_suffix rest
  have htrimmed := trimmed_skipBlanks rest
  rw [continued]
  split
  next hnil =>
    exact placed_complain List.nil_suffix ⟨trimmed_nil, by simp⟩
  next c others hothers =>
  rw [hothers] at hskip htrimmed
  have hrest : others <:+ rest := (List.suffix_cons c others).trans hskip
  split
  · exact hrest
  split
  · have hmore := (skipBlanks_suffix others).trans hrest
    refine (hnext hmore ?_).of_suffix hmore
    have hlength := hskip.length_le
    have hless := (skipBlanks_suffix others).length_le
    rw [List.length_cons] at hlength
    omega
  next hcomma => exact placed_complain hskip ⟨htrimmed, fun h => hcomma (Option.some.inj h)⟩

theorem placed_opened {lack : Complaint} {close : CodePoint} {next : Text → Parsed (List α)}
    {rest : Text} (hlack : lack.Stands []) (hnext : ∀ t, Placed t (next t)) :
    Placed rest (opened lack close next rest) := by
  have hskip := skipBlanks_suffix rest
  rw [opened]
  split
  · exact placed_complain List.nil_suffix hlack
  next c others hothers =>
  rw [hothers] at hskip
  split
  · exact (List.suffix_cons c others).trans hskip
  · exact (hnext _).of_suffix hskip

end

theorem placed_memberKey (t : Text) : Placed t (memberKey t) := by
  cases t with
  | nil => exact placed_complain (List.suffix_refl []) (by simp [Complaint.Stands])
  | cons c t =>
    rw [memberKey_cons]
    split
    next hquote =>
      subst hquote
      refine (placed_stringBody t).bind fun key rest _ => ?_
      have hskip := skipBlanks_suffix rest
      have htrimmed := trimmed_skipBlanks rest
      rw [keyColon]
      dsimp only
      split
      · exact placed_complain List.nil_suffix ⟨trimmed_nil, by simp⟩
      next d others hothers =>
      rw [hothers] at hskip htrimmed
      split
      · exact ((skipBlanks_suffix others).trans (List.suffix_cons d others)).trans hskip
      next hcolon => exact placed_complain hskip ⟨htrimmed, fun h => hcolon (Option.some.inj h)⟩
    next hquote => exact placed_complain (List.suffix_refl _) fun h => hquote (Option.some.inj h)

section

variable {item : Text → Parsed Json} (h : ∀ t, Placed t (item t))
include h

/-- The room is used up only where nothing is left to read. -/
theorem placed_itemsFrom {room : Text} {read : List Json} {t : Text} (hroom : t.length ≤ room.length) :
    Placed t (itemsFrom item room read t) := by
  induction room generalizing read t with
  | nil =>
    obtain rfl := List.eq_nil_of_length_eq_zero (Nat.le_zero.mp hroom)
    exact placed_complain (List.suffix_refl []) ⟨trimmed_nil, by simp⟩
  | cons c room ih =>
    rw [itemsFrom_cons]
    refine (h t).bind fun value rest hrest => placed_continued fun {u} hu hless => ih ?_
    have hlength := hrest.length_le
    rw [List.length_cons] at hroom
    omega

theorem placed_arrayBody (t : Text) : Placed t (arrayBody item t) := by
  rw [arrayBody_eq]
  exact placed_opened not_beginsValue_nil fun u => placed_itemsFrom h (Nat.le_refl _)

theorem placed_membersFrom {room : Text} {read : List (Text × Json)} {t : Text}
    (hroom : t.length ≤ room.length) : Placed t (membersFrom item room read t) := by
  induction room generalizing read t with
  | nil =>
    obtain rfl := List.eq_nil_of_length_eq_zero (Nat.le_zero.mp hroom)
    exact placed_complain (List.suffix_refl []) ⟨trimmed_nil, by simp⟩
  | cons c room ih =>
    rw [membersFrom_cons]
    refine (placed_memberKey t).bind fun key afterKey hkey => ?_
    refine (h afterKey).bind fun value rest hrest => placed_continued fun {u} hu hless => ih ?_
    have hlength := (hrest.trans hkey).length_le
    rw [List.length_cons] at hroom
    omega

theorem placed_objectBody (t : Text) : Placed t (objectBody item t) := by
  rw [objectBody_eq]
  exact placed_opened (by simp [Complaint.Stands]) fun u => placed_membersFrom h (Nat.le_refl _)

end

/-! ### Values -/

theorem placed_leaf {c : CodePoint} (hbracket : c ≠ point '[') (hbrace : c ≠ point '\x7b') (depth : Nat)
    (t : Text) : Placed (c :: t) (parseValue depth (c :: t)) := by
  by_cases hquote : c = point '"'
  · subst hquote
    rw [parseValue_quote]
    exact (placed_stringBody t).map
  · rw [parseValue_scalar hquote hbracket hbrace]
    apply placed_parseScalar
    rintro ⟨d, hd, hmark⟩
    obtain rfl : c = d := by simpa using hd
    tauto

theorem placed_parseValue (depth : Nat) (t : Text) : Placed t (parseValue depth t) := by
  -- What stands inside brackets is read at one depth less.
  induction depth generalizing t with
  | zero =>
    cases t with
    | nil => exact placed_complain (List.suffix_refl []) not_beginsValue_nil
    | cons c t =>
      by_cases hbracket : c = point '['
      · subst hbracket
        trivial
      by_cases hbrace : c = point '\x7b'
      · subst hbrace
        trivial
      · exact placed_leaf hbracket hbrace 0 t
  | succ depth ih =>
    cases t with
    | nil => exact placed_complain (List.suffix_refl []) not_beginsValue_nil
    | cons c t =>
      by_cases hbracket : c = point '['
      · subst hbracket
        rw [parseValue_bracket]
        exact ((placed_arrayBody ih t).of_suffix (List.suffix_cons _ t)).map
      by_cases hbrace : c = point '\x7b'
      · subst hbrace
        rw [parseValue_brace]
        have hbody := (placed_objectBody ih t).of_suffix (List.suffix_cons (point '\x7b') t)
        exact hbody.map (f := fun members => object (Members.ofList members))
      · exact placed_leaf hbracket hbrace (depth + 1) t

/-! ### Whole texts -/

theorem within_whole {t : Text} {r : Parsed Json} (h : Placed t r) {flaw : Flaw}
    (hflaw : whole r = .error flaw) : flaw.Within t := by
  cases r with
  | error _ =>
    cases hflaw
    exact h
  | ok r =>
    obtain ⟨value, rest⟩ := r
    have hskip := (skipBlanks_suffix rest).trans h
    have htrimmed := trimmed_skipBlanks rest
    rw [whole] at hflaw
    split at hflaw
    · cases hflaw
    next c others hothers =>
      cases hflaw
      rw [hothers] at hskip htrimmed
      exact ⟨c :: others, hskip, rfl, htrimmed, List.cons_ne_nil _ _⟩

/-- A flaw of a whole text is about a place in it, or about its end. -/
theorem within_of_decode {t : Text} {flaw : Flaw} {limit : Nat}
    (h : decode t limit = .error flaw) : flaw.Within t := by
  by_cases hmark : t.head? = some byteOrderMark
  · rw [decode, if_pos hmark] at h
    cases h
    exact ⟨t, List.suffix_refl t, rfl, hmark⟩
  · rw [decode_eq_whole hmark] at h
    exact (within_whole (placed_parseValue limit _) h).of_suffix (skipBlanks_suffix t)

theorem stands_of_decode {t : Text} {limit : Nat} {complaint : Complaint} {remaining : Nat}
    (h : decode t limit = .error (.misplaced complaint remaining)) :
    remaining ≤ t.length ∧ complaint.Stands (t.drop (t.length - remaining)) := by
  obtain ⟨rest, hsuffix, rfl, hstands⟩ := within_of_decode h
  rw [← List.suffix_iff_eq_drop.mp hsuffix]
  exact ⟨hsuffix.length_le, hstands⟩

end Json

end SupervisorRpc
