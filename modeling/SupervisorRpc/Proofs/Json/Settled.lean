import SupervisorRpc.Proofs.Json.Reading

/-! Reading strings, numbers and words with more text after them.  An outcome is settled if it cannot be
due to the end of the text: more text leaves it as it is.  A string settles with its closing quote, and
a number with what comes after its last digit. -/

namespace SupervisorRpc

namespace Json

section

variable {α β : Type}

/-- More text cannot change the outcome: what was read ends before a rest of the kind `ends`, or
nesting went past the limit.  Any other flaw may be the end of the text. -/
def Settled (ends : Text → Prop) : Parsed α → Prop
  | .ok r => ends r.2
  | .error (.depth _) => True
  | .error _ => False

/-- The same outcome with more text behind the rest. -/
def extend (u : Text) (r : Parsed α) : Parsed α := r.map fun p => (p.1, p.2 ++ u)

/-- A rest that may be anything, as after a closing bracket. -/
def Anything (_ : Text) : Prop := True

/-- A rest that shows that a value has ended. -/
def Followed (rest : Text) : Prop := rest ≠ [] ∧ Ended rest

variable {ends : Text → Prop} {u : Text}

theorem Settled.depth {flaw : Flaw} (h : Settled ends (.error flaw : Parsed α)) :
    ∃ nesting, flaw = .depth nesting := by
  cases flaw with
  | depth nesting => exact ⟨nesting, rfl⟩
  | _ => exact h.elim

theorem settled_map {r : Parsed α} {f : α → β} :
    Settled ends (r.map fun p => (f p.1, p.2)) ↔ Settled ends r := by
  cases r with
  | ok r => rfl
  | error flaw => cases flaw <;> rfl

theorem extend_map {r : Parsed α} {f : α → β} :
    extend u (r.map fun p => (f p.1, p.2)) = (extend u r).map fun p => (f p.1, p.2) := by
  cases r <;> rfl

theorem Settled.anything {r : Parsed α} (h : Settled ends r) : Settled Anything r := by
  cases r with
  | ok r => trivial
  | error flaw => cases flaw <;> exact h

end

/-! ### Blanks and closers -/

theorem skipBlanks_append_of_ne_nil {t : Text} (h : skipBlanks t ≠ []) (u : Text) :
    skipBlanks (t ++ u) = skipBlanks t ++ u := by
  rw [skipBlanks] at h
  rw [skipBlanks, skipBlanks, List.dropWhile_append, if_neg (by simpa using h)]

theorem skipBlanks_append_of_cons {t : Text} {c : CodePoint} {others : Text}
    (h : skipBlanks t = c :: others) (u : Text) : skipBlanks (t ++ u) = c :: (others ++ u) := by
  rw [skipBlanks_append_of_ne_nil (by simp [h]), h, List.cons_append]

theorem followed_of_skipBlanks {rest others : Text} {c : CodePoint}
    (h : skipBlanks rest = c :: others)
    (hc : c = point ',' ∨ c = point ']' ∨ c = point '\x7d') : Followed rest := by
  cases rest with
  | nil => cases h
  | cons d rest =>
    refine ⟨List.cons_ne_nil _ _, ?_⟩
    intro e he
    obtain rfl : d = e := by simpa using he
    cases hd : isBlank d with
    | true => exact .inl rfl
    | false =>
      rw [skipBlanks_cons hd] at h
      exact .inr ((List.cons.inj h).1 ▸ hc)

theorem Followed.append {rest : Text} (h : Followed rest) (u : Text) : Ended (rest ++ u) := by
  obtain ⟨c, others, rfl⟩ := List.exists_cons_of_ne_nil h.1
  exact h.2

/-! ### Strings -/

/-- The same place, with another text from the last escape on. -/
def StringPlace.since (back : Text) : StringPlace → StringPlace
  | .between half => .between half
  | .escape half _ => .escape half back
  | .unit half left value _ => .unit half left value back

/-- Where the string and its last escape began has no part in what is read. -/
theorem stringFrom_append {start t read : Text} {place : StringPlace}
    (h : Settled Anything (stringFrom start place read t)) (start' back' u : Text) :
    stringFrom start' (place.since back') read (t ++ u) = extend u (stringFrom start place read t) := by
  -- A string settles in nothing but its closing quote, so all complaints on the way are excluded.
  induction t generalizing place read back' with
  | nil => cases place <;> exact h.elim
  | cons c t ih =>
    cases place with
    | between half =>
      rw [StringPlace.since, List.cons_append, stringFrom, stringFrom]
      rw [stringFrom] at h
      split at h
      · next hquote =>
        rw [if_pos hquote, if_pos hquote]
        rfl
      · next hquote =>
        rw [if_neg hquote, if_neg hquote]
        split at h
        · next hescape =>
          rw [if_pos hescape, if_pos hescape]
          exact ih h _
        · next hescape =>
          rw [if_neg hescape, if_neg hescape]
          split at h
          · exact h.elim
          · next hcontrol =>
            rw [if_neg hcontrol, if_neg hcontrol]
            exact ih h []
    | escape half back =>
      rw [StringPlace.since, List.cons_append, stringFrom, stringFrom]
      rw [stringFrom] at h
      split at h
      · next hunit =>
        rw [if_pos hunit, if_pos hunit]
        exact ih h _
      · next hunit =>
        rw [if_neg hunit, if_neg hunit]
        cases hd : escaped? c with
        | some d =>
          rw [hd] at h
          exact ih h []
        | none =>
          rw [hd] at h
          exact h.elim
    | unit half left value back =>
      rw [StringPlace.since, List.cons_append, stringFrom, stringFrom]
      rw [stringFrom] at h
      cases hdigit : c.hexValue? with
      | none =>
        rw [hdigit] at h
        exact h.elim
      | some digit =>
        simp only [hdigit] at h ⊢
        split at h
        · next hlast =>
          rw [if_pos hlast, if_pos hlast]
          split at h
          · exact h.elim
          · next hmore =>
            have hmore' : ¬(t ++ u).isEmpty = true := by
              simp only [List.isEmpty_iff, List.append_eq_nil_iff] at hmore ⊢
              exact fun hnil => hmore hnil.1
            rw [if_neg hmore, if_neg hmore']
            exact ih h []
        · next hlast =>
          rw [if_neg hlast, if_neg hlast]
          exact ih h _

theorem stringBody_append {t : Text} (h : Settled Anything (stringBody t)) (u : Text) :
    stringBody (t ++ u) = extend u (stringBody t) :=
  stringFrom_append h _ [] u

/-! ### Numbers -/

/-- What follows the sign of a number; `t` is the text from the sign on. -/
def magnitude (negative : Bool) (t unsigned : Text) : Parsed Json :=
  let (whole, afterWhole) := wholeDigits unsigned
  if whole = [] then complain .value t
  else
    let (fraction, afterFraction) := fractionDigits afterWhole
    match fraction, exponent? afterFraction with
    | [], none =>
      if digitLimit < whole.length then .error (.digits whole.length)
      else
        let n : Int := Text.digitsValue whole
        .ok (.number (.int (if negative then -n else n)), afterWhole)
    | _, found =>
      let (exponent, rest) := found.getD (0, afterFraction)
      let significand := Text.digitsValue (whole ++ fraction)
      let value := Binary64.ofDecimal negative significand (exponent - fraction.length)
      .ok (.number (.float value), rest)

theorem parseNumber_cons (c : CodePoint) (t : Text) :
    parseNumber (c :: t) =
      if c = point '-' then magnitude true (c :: t) t else magnitude false (c :: t) (c :: t) := by
  by_cases hc : c = point '-'
  · simp only [parseNumber, if_pos hc]
    rfl
  · simp only [parseNumber, if_neg hc]
    rfl

theorem digits_append {t : Text} (h : (digits t).2 ≠ []) (u : Text) :
    digits (t ++ u) = ((digits t).1, (digits t).2 ++ u) := by
  have htake : (t.takeWhile (·.isAsciiDigit)).length ≠ t.length := by
    intro hlength
    have hsplit := congrArg List.length (List.takeWhile_append_dropWhile (p := (·.isAsciiDigit)) (l := t))
    rw [List.length_append] at hsplit
    exact h (List.eq_nil_of_length_eq_zero (by rw [digits]; dsimp only; omega))
  have hdrop : ¬(t.dropWhile (·.isAsciiDigit)).isEmpty = true := by simpa [digits] using h
  simp only [digits, List.takeWhile_append, List.dropWhile_append, if_neg htake, if_neg hdrop]

theorem wholeDigits_append {t : Text} (h : (wholeDigits t).2 ≠ []) (u : Text) :
    wholeDigits (t ++ u) = ((wholeDigits t).1, (wholeDigits t).2 ++ u) := by
  cases t with
  | nil => exact absurd rfl h
  | cons c t =>
    by_cases hc : c = point '0'
    · simp [wholeDigits, hc]
    · simp only [wholeDigits, if_neg hc] at h
      rw [List.cons_append]
      simp only [wholeDigits, if_neg hc]
      exact digits_append h u

theorem wholeDigits_head {t : Text} (h : (wholeDigits t).1 ≠ []) :
    ∃ c ∈ t.head?, c.isAsciiDigit = true := by
  cases t with
  | nil => exact absurd rfl h
  | cons c t =>
    refine ⟨c, rfl, ?_⟩
    by_cases hc : c = point '0'
    · exact hc ▸ by decide
    · by_contra hdigit
      simp [wholeDigits, digits, hc, hdigit] at h

theorem fractionDigits_nil {t : Text} (h : (fractionDigits t).1 = []) : (fractionDigits t).2 = t := by
  cases t with
  | nil => rfl
  | cons c t =>
    simp only [fractionDigits] at h ⊢
    split at h
    · next hpoint => exact absurd h hpoint.2
    · next hpoint => rw [if_neg hpoint]

/-- A fraction is complete where something other than another point follows. -/
theorem fractionDigits_append {t : Text} {c : CodePoint} {others : Text}
    (h : (fractionDigits t).2 = c :: others) (hc : c ≠ point '.') (u : Text) :
    fractionDigits (t ++ u) = ((fractionDigits t).1, (fractionDigits t).2 ++ u) := by
  cases t with
  | nil => cases h
  | cons d t =>
    by_cases hd : d = point '.' ∧ (digits t).1 ≠ []
    · have hplaces : fractionDigits (d :: t) = digits t := by simp [fractionDigits, hd]
      rw [hplaces] at h ⊢
      rw [List.cons_append, fractionDigits, digits_append (by simp [h])]
      dsimp only
      rw [if_pos hd]
    · have hplaces : fractionDigits (d :: t) = ([], d :: t) := by simp [fractionDigits, hd]
      rw [hplaces] at h ⊢
      obtain ⟨rfl, rfl⟩ := List.cons.inj h
      simp [fractionDigits, hc]

/-- What follows the sign of an exponent. -/
def power? (negative : Bool) (unsigned : Text) : Option (Int × Text) :=
  let (written, others) := digits unsigned
  if written = [] then none
  else
    let n := Text.digitsValue written
    some (if negative then -(n : Int) else (n : Int), others)

theorem power?_append {negative : Bool} {t rest : Text} {e : Int}
    (h : power? negative t = some (e, rest)) (hrest : rest ≠ []) (u : Text) :
    power? negative (t ++ u) = some (e, rest ++ u) := by
  rw [power?] at h ⊢
  dsimp only at h ⊢
  split at h
  · cases h
  · next hwritten =>
    obtain ⟨rfl, rfl⟩ := Prod.mk.inj (Option.some.inj h)
    rw [digits_append hrest]
    dsimp only
    rw [if_neg hwritten]

theorem exponent?_cons {c : CodePoint} (hc : c = point 'e' ∨ c = point 'E') (s : CodePoint)
    (t : Text) :
    exponent? (c :: s :: t) =
      if s = point '-' then power? true t
      else if s = point '+' then power? false t
      else power? false (s :: t) := by
  simp only [exponent?, if_pos hc]
  split
  · rfl
  split
  · rfl
  · rfl

theorem exponent?_head {t : Text} {found : Int × Text} (h : exponent? t = some found) :
    ∃ c s others, t = c :: s :: others ∧ (c = point 'e' ∨ c = point 'E') := by
  cases t with
  | nil => cases h
  | cons c t =>
    by_cases hc : c = point 'e' ∨ c = point 'E'
    · cases t with
      | nil => simp [exponent?, hc, digits] at h
      | cons s t => exact ⟨c, s, t, rfl, hc⟩
    · simp [exponent?, hc] at h

theorem exponent?_append {t rest : Text} {e : Int} (h : exponent? t = some (e, rest))
    (hrest : rest ≠ []) (u : Text) : exponent? (t ++ u) = some (e, rest ++ u) := by
  obtain ⟨c, s, t, rfl, hc⟩ := exponent?_head h
  rw [exponent?_cons hc] at h
  rw [List.cons_append, List.cons_append, exponent?_cons hc]
  split at h
  · next hminus => rw [if_pos hminus, power?_append h hrest]
  split at h
  · next hminus hplus => rw [if_neg hminus, if_pos hplus, power?_append h hrest]
  · next hminus hplus =>
    rw [if_neg hminus, if_neg hplus, ← List.cons_append, power?_append h hrest]

/-- What a number leaves shows where each of its parts ends. -/
theorem magnitude_append {negative : Bool} {t unsigned : Text}
    (h : Settled Followed (magnitude negative t unsigned)) (t' u : Text) :
    magnitude negative t' (unsigned ++ u) = extend u (magnitude negative t unsigned) := by
  rcases hwhole : wholeDigits unsigned with ⟨whole, afterWhole⟩
  rcases hfraction : fractionDigits afterWhole with ⟨fraction, afterFraction⟩
  have hdigits : whole ≠ [] := by
    rintro rfl
    simp only [magnitude, hwhole, if_true] at h
    exact h.elim
  -- Something is left after the fraction, and it is no point, so both parts end before it.
  have parts : ∀ {c others}, afterFraction = c :: others → c ≠ point '.' →
      wholeDigits (unsigned ++ u) = (whole, afterWhole ++ u) ∧
        fractionDigits (afterWhole ++ u) = (fraction, afterFraction ++ u) := by
    intro c others hcons hc
    have hmore : (fractionDigits afterWhole).2 = c :: others := by rw [hfraction, hcons]
    have hne : (wholeDigits unsigned).2 ≠ [] := by
      rw [hwhole]
      rintro rfl
      cases hmore
    constructor
    · rw [wholeDigits_append hne, hwhole]
    · rw [fractionDigits_append hmore hc, hfraction]
  cases hexponent : exponent? afterFraction with
  | some found =>
    obtain ⟨e, rest⟩ := found
    obtain ⟨c, s, others, hcons, hc⟩ := exponent?_head hexponent
    have hpoint : c ≠ point '.' := by rcases hc with rfl | rfl <;> decide
    have hrest : Followed rest := by
      simp only [magnitude, hwhole, hfraction, hexponent, if_neg hdigits] at h
      cases fraction <;> exact h
    obtain ⟨hwhole', hfraction'⟩ := parts hcons hpoint
    simp only [magnitude, hwhole, hwhole', hfraction, hfraction', hexponent,
      exponent?_append hexponent hrest.1, if_neg hdigits]
    cases fraction <;> rfl
  | none =>
    have hrest : Followed afterFraction := by
      simp only [magnitude, hwhole, hfraction, hexponent, if_neg hdigits] at h
      cases fraction with
      | nil =>
        have hsame := fractionDigits_nil (t := afterWhole) (by rw [hfraction])
        rw [hfraction] at hsame
        dsimp only at h hsame
        split at h
        · exact h.elim
        · exact hsame ▸ h
      | cons d ds => exact h
    obtain ⟨c, others, hcons⟩ := List.exists_cons_of_ne_nil hrest.1
    have hpoint : c ≠ point '.' := (hcons ▸ hrest.2).notNumber.2.1
    obtain ⟨hwhole', hfraction'⟩ := parts hcons hpoint
    simp only [magnitude, hwhole, hwhole', hfraction, hfraction', hexponent,
      exponent?_ended (hrest.append u), if_neg hdigits]
    cases fraction with
    | nil =>
      dsimp only
      split <;> rfl
    | cons d ds => rfl

theorem magnitude_head {negative : Bool} {t unsigned : Text}
    (h : Settled Followed (magnitude negative t unsigned)) :
    ∃ c ∈ unsigned.head?, c.isAsciiDigit = true := by
  apply wholeDigits_head
  intro hnil
  rw [magnitude] at h
  dsimp only at h
  rw [if_pos hnil] at h
  exact h.elim

theorem parseNumber_append {t : Text} (h : Settled Followed (parseNumber t)) (u : Text) :
    (∃ c ∈ t.take 2, c.isAsciiDigit = true) ∧ parseNumber (t ++ u) = extend u (parseNumber t) := by
  cases t with
  | nil => exact h.elim
  | cons c t =>
    rw [List.cons_append, parseNumber_cons, parseNumber_cons]
    rw [parseNumber_cons] at h
    split at h
    · next hminus =>
      obtain ⟨d, hd, hdigit⟩ := magnitude_head h
      obtain ⟨others, rfl⟩ := List.head?_eq_some_iff.mp hd
      rw [if_pos hminus, if_pos hminus]
      exact ⟨⟨d, by simp, hdigit⟩, magnitude_append h _ u⟩
    · next hminus =>
      obtain ⟨d, hd, hdigit⟩ := magnitude_head h
      obtain rfl : c = d := by simpa using hd
      rw [if_neg hminus, if_neg hminus]
      exact ⟨⟨c, by simp, hdigit⟩, magnitude_append h _ u⟩

/-! ### Words -/

theorem parseScalar_word {word : Text × Json} (h : word ∈ words) (rest : Text) :
    parseScalar (word.1 ++ rest) = .ok (word.2, rest) := by
  simp only [words, List.mem_cons, List.not_mem_nil, or_false] at h
  rcases h with rfl | rfl | rfl | rfl | rfl | rfl <;> rfl

theorem parseScalar_cases (t : Text) :
    (∃ word ∈ words, ∃ rest, t = word.1 ++ rest) ∨ parseScalar t = parseNumber t := by
  rw [parseScalar]
  split
  · next found hfound =>
    obtain ⟨word, hword, hafter⟩ := List.exists_of_findSome?_eq_some hfound
    rw [Option.map_eq_some_iff, after?] at hafter
    obtain ⟨rest, hafter, -⟩ := hafter
    split at hafter
    · next hbegins =>
      obtain ⟨u, rfl⟩ := List.isPrefixOf_iff_prefix.mp hbegins
      exact .inl ⟨word, hword, u, rfl⟩
    · cases hafter
  · exact .inr rfl

theorem parseScalar_append {t : Text} (h : Settled Followed (parseScalar t)) (u : Text) :
    parseScalar (t ++ u) = extend u (parseScalar t) := by
  rcases parseScalar_cases t with ⟨word, hword, rest, rfl⟩ | hnumber
  · rw [List.append_assoc, parseScalar_word hword, parseScalar_word hword]
    rfl
  · rw [hnumber] at h ⊢
    obtain ⟨⟨c, hc, hdigit⟩, happend⟩ := parseNumber_append h u
    have hc' : c ∈ (t ++ u).take 2 := by
      rw [List.take_append]
      exact List.mem_append_left _ hc
    rw [parseScalar_of_digit ⟨c, hc', hdigit⟩, happend]

end Json

end SupervisorRpc
