import SupervisorRpc.Proofs.Json.Continuing
import SupervisorRpc.Proofs.Json.Writing

/-! What the reader gives.  Out of text without surrogates it gives strings without surrogate pairs in
two halves, since two escapes that make a pair are always joined; integers of no more digits than the
text has; and objects that have no key twice.  So a value that was read and holds no floating-point
number is plain: it survives being written and read again. -/

namespace SupervisorRpc

namespace Json

/-- A value as the reader gives it: plain, but for floating-point numbers in it. -/
inductive Decoded : (depth : Nat) → Json → Prop
  | scalar {depth : Nat} {v : Json} (h : Plain 0 v) : Decoded depth v
  | float {depth : Nat} (x : Float) : Decoded depth (.number (.float x))
  | array {depth : Nat} {items : List Json} (h : ∀ v ∈ items, Decoded depth v) :
      Decoded (depth + 1) (.array items)
  | object {depth : Nat} {members : List (Text × Json)} (distinct : (members.map Prod.fst).Nodup)
      (keys : ∀ m ∈ members, m.1.Unpaired) (values : ∀ m ∈ members, Decoded depth m.2) :
      Decoded (depth + 1) (.object members)

/-- A value with no floating-point number in it. -/
inductive Integral : Json → Prop
  | null : Integral .null
  | bool (b : Bool) : Integral (.bool b)
  | integer (i : Int) : Integral (.number (.int i))
  | string (t : Text) : Integral (.string t)
  | array {items : List Json} (h : ∀ v ∈ items, Integral v) : Integral (.array items)
  | object {members : List (Text × Json)} (h : ∀ m ∈ members, Integral m.2) :
      Integral (.object members)

theorem Decoded.plain {depth : Nat} {v : Json} (h : Decoded depth v) (hv : v.Integral) :
    Plain depth v := by
  induction h with
  | scalar h => exact h.mono (Nat.zero_le _)
  | float x => cases hv
  | array _ ih =>
    cases hv with
    | array hv => exact .array fun v hmem => ih v hmem (hv v hmem)
  | object distinct keys _ ih =>
    cases hv with
    | object hv => exact .object distinct keys fun m hmem => ih m hmem (hv m hmem)

section

variable {α β : Type}

/-- If a parser gives anything, it has the property `P`, and the rest holds no surrogates. -/
def Gives (P : α → Prop) : Parsed α → Prop
  | .ok r => P r.1 ∧ r.2.Scalar
  | .error _ => True

variable {P : α → Prop} {Q : β → Prop}

theorem Gives.map {r : Parsed α} {f : α → β} (h : Gives P r) (hf : ∀ {a}, P a → Q (f a)) :
    Gives Q (r.map fun p => (f p.1, p.2)) := by
  cases r with
  | error flaw => trivial
  | ok r => exact ⟨hf h.1, h.2⟩

theorem Gives.bind {r : Parsed α} {k : α × Text → Parsed β} (h : Gives P r)
    (hk : ∀ {a rest}, P a → rest.Scalar → Gives Q (k (a, rest))) : Gives Q (r.bind k) := by
  cases r with
  | error flaw => trivial
  | ok r => exact hk h.1 h.2

end

theorem scalar_skipBlanks {t : Text} (h : t.Scalar) : (skipBlanks t).Scalar :=
  h.of_suffix (skipBlanks_suffix t)

/-! ### Strings -/

/-- What a string holds so far, in reverse order: no pair in two halves, and a first half at its end
only if the reader knows of it. -/
structure Halved (half : Bool) (read : Text) : Prop where
  unpaired : Text.Unpaired read.reverse
  last : half = false → ∀ c ∈ read.head?, c.isHighSurrogate = false

theorem halved_nil : Halved false [] := ⟨List.isChain_nil, by simp⟩

theorem unpaired_reverse_cons {c : CodePoint} {read : Text} :
    Text.Unpaired (c :: read).reverse ↔
      (∀ d ∈ read.head?, ¬(d.isHighSurrogate = true ∧ c.isLowSurrogate = true)) ∧
        Text.Unpaired read.reverse := by
  rw [Text.Unpaired, Text.Unpaired, List.isChain_reverse, List.isChain_reverse, List.isChain_cons]

section

variable {half : Bool} {read : Text}

theorem Halved.cons (h : Halved half read) {c : CodePoint} (hc : c.isSurrogate = false) :
    Halved false (c :: read) := by
  constructor
  · rw [unpaired_reverse_cons]
    refine ⟨fun d _ hpair => ?_, h.unpaired⟩
    rw [CodePoint.not_isLowSurrogate hc] at hpair
    exact absurd hpair.2 (by decide)
  · intro _ d hd
    obtain rfl : c = d := by simpa using hd
    exact CodePoint.not_isHighSurrogate hc

/-- A pair is past the surrogates, and so is U+FFFD, which would stand for a pair out of range. -/
theorem not_isSurrogate_joined (high low : CodePoint) : (joined high low).isSurrogate = false := by
  rw [← Bool.not_eq_true, CodePoint.isSurrogate_iff, joined, CodePoint.ofNat]
  split <;> dsimp only <;> omega

/-- A unit that is the second half of a pair joins the first half, so that no two halves stand side by
side. -/
theorem Halved.addUnit (h : Halved half read) (unit : CodePoint) :
    Halved (Json.addUnit half read unit).1 (Json.addUnit half read unit).2 := by
  by_cases hjoin : half = false ∨ unit.isLowSurrogate = false
  · rw [addUnit_of_notLow hjoin]
    constructor
    · rw [unpaired_reverse_cons]
      refine ⟨fun d hd hpair => ?_, h.unpaired⟩
      rcases hjoin with hhalf | hlow
      · rw [h.last hhalf d hd] at hpair
        exact absurd hpair.1 (by decide)
      · rw [hlow] at hpair
        exact absurd hpair.2 (by decide)
    · intro hhigh d hd
      obtain rfl : unit = d := by simpa using hd
      exact hhigh
  · obtain ⟨rfl, hlow⟩ : half = true ∧ unit.isLowSurrogate = true := by simpa using hjoin
    cases read with
    | nil =>
      have halone : Json.addUnit true [] unit = (unit.isHighSurrogate, [unit]) := by
        simp [Json.addUnit, hlow]
      rw [halone]
      refine ⟨List.isChain_singleton _, fun hhigh d hd => ?_⟩
      obtain rfl : unit = d := by simpa using hd
      exact hhigh
    | cons high before =>
      have hbefore : Halved true before := ⟨(unpaired_reverse_cons.mp h.unpaired).2, by simp⟩
      rw [addUnit_pair hlow rfl]
      exact hbefore.cons (not_isSurrogate_joined high unit)

end

/-- Whether the last code point of a string is a first half. -/
def StringPlace.half : StringPlace → Bool
  | .between half => half
  | .escape half _ => half
  | .unit half _ _ _ => half

theorem not_isSurrogate_escaped {c d : CodePoint} (hc : c.isSurrogate = false)
    (h : escaped? c = some d) : d.isSurrogate = false := by
  unfold escaped? at h
  split at h
  · exact Option.some.inj h ▸ hc
  repeat
    split at h
    · exact Option.some.inj h ▸ by decide
  cases h

theorem gives_stringFrom {start t read : Text} {place : StringPlace} (hread : Halved place.half read)
    (ht : t.Scalar) : Gives Text.Unpaired (stringFrom start place read t) := by
  induction t generalizing place read with
  | nil => cases place <;> trivial
  | cons c t ih =>
    obtain ⟨hc, ht⟩ := ht.of_cons
    cases place with
    | between half =>
      rw [stringFrom]
      split
      · exact ⟨hread.unpaired, ht⟩
      split
      · exact ih hread ht
      split
      · trivial
      · exact ih (hread.cons hc) ht
    | escape half back =>
      rw [stringFrom]
      split
      · exact ih hread ht
      · cases hd : escaped? c with
        | none => trivial
        | some d => exact ih (hread.cons (not_isSurrogate_escaped hc hd)) ht
    | unit half left value back =>
      rw [stringFrom]
      cases c.hexValue? with
      | none => trivial
      | some digit =>
        dsimp only
        split
        · split
          · trivial
          · exact ih (hread.addUnit _) ht
        · exact ih hread ht

theorem gives_stringBody {t : Text} (h : t.Scalar) : Gives Text.Unpaired (stringBody t) :=
  gives_stringFrom halved_nil h

/-! ### Numbers and words -/

theorem digits_suffix (t : Text) : (digits t).2 <:+ t := List.dropWhile_suffix _

theorem wholeDigits_suffix (t : Text) : (wholeDigits t).2 <:+ t := by
  cases t with
  | nil => exact List.nil_suffix
  | cons c t =>
    rw [wholeDigits]
    split
    · exact List.suffix_cons c t
    · exact digits_suffix _

theorem isAsciiDigit_wholeDigits (t : Text) : ∀ c ∈ (wholeDigits t).1, c.isAsciiDigit = true := by
  cases t with
  | nil => simp [wholeDigits]
  | cons c t =>
    rw [wholeDigits]
    split
    · next hc => simpa using hc ▸ by decide
    · intro d hd
      exact (List.mem_takeWhile_imp hd :)

theorem fractionDigits_suffix (t : Text) : (fractionDigits t).2 <:+ t := by
  cases t with
  | nil => exact List.nil_suffix
  | cons c t =>
    rw [fractionDigits]
    dsimp only
    split
    · exact (digits_suffix t).trans (List.suffix_cons c t)
    · exact List.suffix_refl _

theorem power?_suffix {negative : Bool} {t : Text} {found : Int × Text}
    (h : power? negative t = some found) : found.2 <:+ t := by
  rw [power?] at h
  dsimp only at h
  split at h
  · cases h
  · exact Option.some.inj h ▸ digits_suffix t

theorem exponent?_suffix {t : Text} {found : Int × Text} (h : exponent? t = some found) :
    found.2 <:+ t := by
  obtain ⟨c, s, others, rfl, hc⟩ := exponent?_head h
  have htwo : others <:+ c :: s :: others :=
    (List.suffix_cons s others).trans (List.suffix_cons c _)
  rw [exponent?_cons hc] at h
  split at h
  · exact (power?_suffix h).trans htwo
  split at h
  · exact (power?_suffix h).trans htwo
  · exact (power?_suffix h).trans (List.suffix_cons c _)

variable {depth : Nat}

theorem gives_magnitude {negative : Bool} {t unsigned : Text} (h : unsigned.Scalar) :
    Gives (Decoded depth) (magnitude negative t unsigned) := by
  have hdigits := isAsciiDigit_wholeDigits unsigned
  have hafter := h.of_suffix (wholeDigits_suffix unsigned)
  have hfraction := hafter.of_suffix (fractionDigits_suffix (wholeDigits unsigned).2)
  simp only [magnitude]
  split
  · trivial
  next hwhole =>
  split
  · -- An integer has as many digits as are written, or less.
    split
    · trivial
    next hlimit =>
    refine ⟨.scalar (.integer ?_), hafter⟩
    have hlength := Text.length_ofNat_digitsValue hwhole hdigits
    have habs : ∀ n : Nat, (if negative = true then -(n : Int) else n).natAbs = n := by
      intro n
      cases negative <;> simp
    rw [habs]
    exact hlength.trans (Nat.le_of_not_lt hlimit)
  · refine ⟨.float _, ?_⟩
    cases hexponent : exponent? (fractionDigits (wholeDigits unsigned).2).2 with
    | none => exact hfraction
    | some found => exact hfraction.of_suffix (exponent?_suffix hexponent)

theorem gives_parseNumber {t : Text} (h : t.Scalar) : Gives (Decoded depth) (parseNumber t) := by
  cases t with
  | nil => trivial
  | cons c t =>
    rw [parseNumber_cons]
    split
    · exact gives_magnitude h.of_cons.2
    · exact gives_magnitude h

theorem gives_parseScalar {t : Text} (h : t.Scalar) : Gives (Decoded depth) (parseScalar t) := by
  rcases parseScalar_cases t with ⟨word, hword, rest, rfl⟩ | hnumber
  · rw [parseScalar_word hword]
    refine ⟨?_, h.of_suffix (List.suffix_append _ _)⟩
    simp only [words, List.mem_cons, List.not_mem_nil, or_false] at hword
    rcases hword with rfl | rfl | rfl | rfl | rfl | rfl
    · exact .scalar .null
    · exact .scalar (.bool true)
    · exact .scalar (.bool false)
    all_goals exact .float _
  · rw [hnumber]
    exact gives_parseNumber h

/-! ### Items and members -/

section

variable {α : Type} {P : α → Prop}

theorem gives_continued {close : CodePoint} {done : α} {next : Text → Parsed α} {rest : Text}
    (hrest : rest.Scalar) (hdone : P done) (hnext : ∀ {t : Text}, t.Scalar → Gives P (next t)) :
    Gives P (continued close done next rest) := by
  have hskip := scalar_skipBlanks hrest
  rw [continued]
  split
  · trivial
  next c others hothers =>
  rw [hothers] at hskip
  split
  · exact ⟨hdone, hskip.of_cons.2⟩
  split
  · exact hnext (scalar_skipBlanks hskip.of_cons.2)
  · trivial

theorem gives_opened {lack : Complaint} {close : CodePoint} {next : Text → Parsed (List α)}
    {rest : Text} (hrest : rest.Scalar)
    (hnext : ∀ {t : Text}, t.Scalar → Gives (∀ a ∈ ·, P a) (next t)) :
    Gives (∀ a ∈ ·, P a) (opened lack close next rest) := by
  have hskip := scalar_skipBlanks hrest
  rw [opened]
  split
  · trivial
  next c others hothers =>
  rw [hothers] at hskip
  split
  · exact ⟨by simp, hskip.of_cons.2⟩
  · exact hnext hskip

theorem forall_mem_reverse_cons {a : α} {read : List α} (ha : P a) (hread : ∀ b ∈ read, P b) :
    ∀ b ∈ (a :: read).reverse, P b := by
  intro b hb
  rw [List.mem_reverse] at hb
  exact List.forall_mem_cons.mpr ⟨ha, hread⟩ b hb

end

theorem gives_memberKey {t : Text} (ht : t.Scalar) : Gives Text.Unpaired (memberKey t) := by
  cases t with
  | nil => trivial
  | cons c t =>
    rw [memberKey_cons]
    split
    · refine (gives_stringBody ht.of_cons.2).bind fun {key rest} hkey hrest => ?_
      have hskip := scalar_skipBlanks hrest
      rw [keyColon]
      dsimp only
      split
      · trivial
      next d others hothers =>
      rw [hothers] at hskip
      split
      · exact ⟨hkey, scalar_skipBlanks hskip.of_cons.2⟩
      · trivial
    · trivial

section

variable {P : Json → Prop} {item : Text → Parsed Json}
  (h : ∀ {t : Text}, t.Scalar → Gives P (item t))
include h

theorem gives_itemsFrom {room : Text} {read : List Json} {t : Text} (hread : ∀ v ∈ read, P v)
    (ht : t.Scalar) : Gives (∀ v ∈ ·, P v) (itemsFrom item room read t) := by
  induction room generalizing read t with
  | nil => trivial
  | cons c room ih =>
    rw [itemsFrom_cons]
    refine (h ht).bind fun hvalue hrest => ?_
    exact gives_continued hrest (forall_mem_reverse_cons hvalue hread)
      (ih (List.forall_mem_cons.mpr ⟨hvalue, hread⟩))

theorem gives_arrayBody {t : Text} (ht : t.Scalar) : Gives (∀ v ∈ ·, P v) (arrayBody item t) := by
  rw [arrayBody_eq]
  exact gives_opened ht (gives_itemsFrom h (by simp))

theorem gives_membersFrom {room : Text} {read : List (Text × Json)} {t : Text}
    (hread : ∀ m ∈ read, m.1.Unpaired ∧ P m.2) (ht : t.Scalar) :
    Gives (∀ m ∈ ·, m.1.Unpaired ∧ P m.2) (membersFrom item room read t) := by
  induction room generalizing read t with
  | nil => trivial
  | cons c room ih =>
    rw [membersFrom_cons]
    refine (gives_memberKey ht).bind fun hkey hafter => ?_
    refine (h hafter).bind fun hvalue hrest => ?_
    exact gives_continued hrest (forall_mem_reverse_cons ⟨hkey, hvalue⟩ hread)
      (ih (List.forall_mem_cons.mpr ⟨⟨hkey, hvalue⟩, hread⟩))

theorem gives_objectBody {t : Text} (ht : t.Scalar) :
    Gives (∀ m ∈ ·, m.1.Unpaired ∧ P m.2) (objectBody item t) := by
  rw [objectBody_eq]
  exact gives_opened ht (gives_membersFrom h (by simp))

end

/-! ### Values -/

/-- An object has its keys once each, whatever was written. -/
theorem decoded_ofList {written : List (Text × Json)}
    (h : ∀ m ∈ written, m.1.Unpaired ∧ Decoded depth m.2) :
    Decoded (depth + 1) (.object (Members.ofList written)) :=
  .object (Members.nodup_ofList written) (fun m hm => (h m (Members.mem_of_mem_ofList hm)).1)
    fun m hm => (h m (Members.mem_of_mem_ofList hm)).2

theorem gives_parseValue {t : Text} (h : t.Scalar) :
    Gives (Decoded depth) (parseValue depth t) := by
  -- What stands inside brackets is read at one depth less.
  induction depth generalizing t with
  | zero =>
    cases t with
    | nil => trivial
    | cons c t =>
      rw [parseValue]
      split
      · exact (gives_stringBody h.of_cons.2).map fun hread => .scalar (.string hread)
      split
      · trivial
      split
      · trivial
      · exact gives_parseScalar h
  | succ depth ih =>
    cases t with
    | nil => trivial
    | cons c t =>
      rw [parseValue]
      split
      · exact (gives_stringBody h.of_cons.2).map fun hread => .scalar (.string hread)
      split
      · exact (gives_arrayBody ih h.of_cons.2).map .array
      split
      · exact (gives_objectBody ih h.of_cons.2).map decoded_ofList
      · exact gives_parseScalar h

/-- What the decoder gives for a text without surrogates. -/
theorem decoded_of_decode {t : Text} {limit : Nat} (ht : t.Scalar) {v : Json}
    (h : decode t limit = .ok v) : Decoded limit v := by
  rw [decode_eq_whole (head?_of_decode h nofun)] at h
  obtain ⟨rest, hvalue, -⟩ := whole_eq_ok h
  have hgives : Gives (Decoded limit) (parseValue limit (skipBlanks t)) :=
    gives_parseValue (scalar_skipBlanks ht)
  rw [hvalue] at hgives
  exact hgives.1

/-- A member of an object is nested one level less. -/
theorem Decoded.member {members : Members} (h : Decoded (depth + 1) (.object members))
    {m : Text × Json} (hm : m ∈ members) : Decoded depth m.2 := by
  cases h with
  | scalar h => cases h
  | object _ _ values => exact values m hm

end Json

end SupervisorRpc
