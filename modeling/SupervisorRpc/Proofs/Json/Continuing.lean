import SupervisorRpc.Proofs.Json.Settled

/-! Reading values with more text after them.  Where a value ended in a bracket or before a text that
ends a value, or met too much nesting, it is read the same with any more text behind.  So an object is
read the same whatever follows it, and nothing but blanks follows it in a whole text. -/

namespace SupervisorRpc

namespace Json

/-- A text that begins with a value that ends in a mark of its own. -/
def Delimited (t : Text) : Prop :=
  ∃ c ∈ t.head?, c = point '"' ∨ c = point '[' ∨ c = point '\x7b'

/-- A value at the front of `t` ends before `rest`, whatever comes after that. -/
def Bounded (t rest : Text) : Prop := Delimited t ∨ Followed rest

/-- A parser of values that needs some text and keeps its settled outcomes. -/
structure Steady (p : Text → Parsed Json) : Prop where
  empty : ∃ complaint remaining, p [] = .error (.misplaced complaint remaining)
  append : ∀ {t : Text} (u : Text), Settled (Bounded t) (p t) → p (t ++ u) = extend u (p t)

/-! ### Items and members -/

section

variable {α β : Type}

/-- One parser after another: what the first leaves has to show where it ended. -/
theorem bind_append {p : Text → Parsed α} {ends ends' : Text → Prop} {k k' : α × Text → Parsed β}
    {t u : Text} (hp : Settled ends (p t) → p (t ++ u) = extend u (p t))
    (hs : Settled ends' ((p t).bind k))
    (hk : ∀ a rest, Settled ends' (k (a, rest)) →
      ends rest ∧ k' (a, rest ++ u) = extend u (k (a, rest))) :
    (p (t ++ u)).bind k' = extend u ((p t).bind k) := by
  cases hfirst : p t with
  | error flaw =>
    rw [hfirst] at hs hp
    obtain ⟨nesting, rfl⟩ := Settled.depth hs
    rw [hp trivial]
    rfl
  | ok r =>
    obtain ⟨a, rest⟩ := r
    rw [hfirst] at hs hp
    obtain ⟨hends, hsecond⟩ := hk a rest hs
    rw [hp hends]
    exact hsecond

/-- What comes after an item: the closing bracket, or a comma and more. -/
def continued (close : CodePoint) (done : α) (next : Text → Parsed α) (rest : Text) : Parsed α :=
  match skipBlanks rest with
  | [] => complain .comma []
  | c :: others =>
    if c = close then .ok (done, others)
    else if c = point ',' then next (skipBlanks others)
    else complain .comma (c :: others)

theorem continued_append {close : CodePoint} (hclose : close = point ']' ∨ close = point '\x7d')
    {done : α} {next next' : Text → Parsed α} {rest u : Text}
    (hs : Settled Anything (continued close done next rest))
    (hnext : ∀ t, Settled Anything (next t) → t ≠ [] ∧ next' (t ++ u) = extend u (next t)) :
    Followed rest ∧ continued close done next' (rest ++ u) =
      extend u (continued close done next rest) := by
  rw [continued] at hs
  cases hskip : skipBlanks rest with
  | nil =>
    rw [hskip] at hs
    exact hs.elim
  | cons c others =>
    simp only [hskip] at hs
    rw [continued, continued, skipBlanks_append_of_cons hskip, hskip]
    dsimp only
    split at hs
    · next hc =>
      rw [if_pos hc, if_pos hc]
      exact ⟨followed_of_skipBlanks hskip (.inr (hc ▸ hclose)), rfl⟩
    · next hc =>
      rw [if_neg hc, if_neg hc]
      split at hs
      · next hcomma =>
        obtain ⟨hne, happend⟩ := hnext _ hs
        rw [if_pos hcomma, if_pos hcomma, skipBlanks_append_of_ne_nil hne]
        exact ⟨followed_of_skipBlanks hskip (.inl hcomma), happend⟩
      · exact hs.elim

/-- What comes after an opening bracket: the closing one, or a first item. -/
def opened (lack : Complaint) (close : CodePoint) (next : Text → Parsed (List α)) (rest : Text) :
    Parsed (List α) :=
  match skipBlanks rest with
  | [] => complain lack []
  | c :: others => if c = close then .ok ([], others) else next (c :: others)

theorem opened_append {lack : Complaint} {close : CodePoint} {next : Text → Parsed (List α)}
    {rest u : Text} (hs : Settled Anything (opened lack close next rest))
    (hnext : ∀ t, Settled Anything (next t) → next (t ++ u) = extend u (next t)) :
    opened lack close next (rest ++ u) = extend u (opened lack close next rest) := by
  rw [opened] at hs
  cases hskip : skipBlanks rest with
  | nil =>
    rw [hskip] at hs
    exact hs.elim
  | cons c others =>
    simp only [hskip] at hs
    rw [opened, opened, skipBlanks_append_of_cons hskip, hskip]
    dsimp only
    split at hs
    · next hc =>
      rw [if_pos hc, if_pos hc]
      rfl
    · next hc =>
      rw [if_neg hc, if_neg hc]
      exact hnext _ hs

end

theorem itemsFrom_cons (item : Text → Parsed Json) (c : CodePoint) (room : Text) (read : List Json)
    (t : Text) :
    itemsFrom item (c :: room) read t = (item t).bind fun r =>
      continued (point ']') (r.1 :: read).reverse (itemsFrom item room (r.1 :: read)) r.2 := by
  rw [itemsFrom]
  cases item t <;> rfl

theorem arrayBody_eq (item : Text → Parsed Json) (rest : Text) :
    arrayBody item rest = opened .value (point ']') (fun t => itemsFrom item t [] t) rest := rfl

theorem membersFrom_cons (item : Text → Parsed Json) (c : CodePoint) (room : Text)
    (read : List (Text × Json)) (t : Text) :
    membersFrom item (c :: room) read t = (memberKey t).bind fun k => (item k.2).bind fun r =>
      continued (point '\x7d') ((k.1, r.1) :: read).reverse
        (membersFrom item room ((k.1, r.1) :: read)) r.2 := by
  rw [membersFrom]
  cases memberKey t with
  | error flaw => rfl
  | ok k =>
    dsimp only [Except.bind]
    cases item k.2 <;> rfl

theorem objectBody_eq (item : Text → Parsed Json) (rest : Text) :
    objectBody item rest = opened .name (point '\x7d') (fun t => membersFrom item t [] t) rest := rfl

/-- The colon after a key. -/
def keyColon (key : Text × Text) : Parsed Text :=
  match skipBlanks key.2 with
  | [] => complain .colon []
  | c :: others =>
    if c = point ':' then .ok (key.1, skipBlanks others) else complain .colon (c :: others)

theorem memberKey_cons (c : CodePoint) (t : Text) :
    memberKey (c :: t) =
      if c = point '"' then (stringBody t).bind keyColon else complain .name (c :: t) := by
  rw [memberKey]
  split
  · cases stringBody t <;> rfl
  · rfl

theorem keyColon_append {key rest : Text} (hs : Settled (· ≠ []) (keyColon (key, rest))) (u : Text) :
    keyColon (key, rest ++ u) = extend u (keyColon (key, rest)) := by
  rw [keyColon] at hs
  cases hskip : skipBlanks rest with
  | nil =>
    simp only [hskip] at hs
    exact hs.elim
  | cons c others =>
    simp only [hskip] at hs
    simp only [keyColon, skipBlanks_append_of_cons hskip, hskip]
    split at hs
    · next hcolon =>
      rw [if_pos hcolon, if_pos hcolon, skipBlanks_append_of_ne_nil hs]
      rfl
    · exact hs.elim

theorem memberKey_append {t : Text} (hs : Settled (· ≠ []) (memberKey t)) (u : Text) :
    memberKey (t ++ u) = extend u (memberKey t) := by
  cases t with
  | nil => exact hs.elim
  | cons c t =>
    rw [memberKey_cons] at hs
    rw [List.cons_append, memberKey_cons, memberKey_cons]
    split at hs
    · next hquote =>
      rw [if_pos hquote, if_pos hquote]
      apply bind_append (fun hbody => stringBody_append hbody u) hs
      intro key rest hcolon
      exact ⟨trivial, keyColon_append hcolon u⟩
    · exact hs.elim

section

variable {item : Text → Parsed Json} (h : Steady item)
include h

/-- A value before something that goes on where it ended. -/
theorem Steady.bind_append {β : Type} {k k' : Json × Text → Parsed β} {t u : Text}
    (hs : Settled Anything ((item t).bind k))
    (hk : ∀ value rest, Settled Anything (k (value, rest)) →
      Followed rest ∧ k' (value, rest ++ u) = extend u (k (value, rest))) :
    (item (t ++ u)).bind k' = extend u ((item t).bind k) := by
  apply Json.bind_append (h.append u) hs
  intro value rest hsecond
  obtain ⟨hfollowed, happend⟩ := hk value rest hsecond
  exact ⟨.inr hfollowed, happend⟩

theorem Steady.ne_nil {β : Type} {k : Json × Text → Parsed β} {t : Text}
    (hs : Settled Anything ((item t).bind k)) : t ≠ [] := by
  rintro rfl
  obtain ⟨complaint, remaining, hempty⟩ := h.empty
  rw [hempty] at hs
  exact hs.elim

theorem itemsFrom_append {room : Text} {read : List Json} {t : Text}
    (hs : Settled Anything (itemsFrom item room read t)) (more u : Text) :
    t ≠ [] ∧ itemsFrom item (room ++ more) read (t ++ u) =
      extend u (itemsFrom item room read t) := by
  -- Room that was enough for the items is enough with more of it.
  induction room generalizing read t with
  | nil => exact hs.elim
  | cons c room ih =>
    rw [itemsFrom_cons] at hs
    rw [List.cons_append, itemsFrom_cons, itemsFrom_cons]
    refine ⟨h.ne_nil hs, h.bind_append hs ?_⟩
    intro value rest hrest
    exact continued_append (.inl rfl) hrest fun t ht => ih ht

theorem arrayBody_append {t : Text} (hs : Settled Anything (arrayBody item t)) (u : Text) :
    arrayBody item (t ++ u) = extend u (arrayBody item t) := by
  rw [arrayBody_eq] at hs
  rw [arrayBody_eq, arrayBody_eq]
  exact opened_append hs fun _ ht => (itemsFrom_append h ht u u).2

theorem membersFrom_append {room : Text} {read : List (Text × Json)} {t : Text}
    (hs : Settled Anything (membersFrom item room read t)) (more u : Text) :
    t ≠ [] ∧ membersFrom item (room ++ more) read (t ++ u) =
      extend u (membersFrom item room read t) := by
  induction room generalizing read t with
  | nil => exact hs.elim
  | cons c room ih =>
    rw [membersFrom_cons] at hs
    rw [List.cons_append, membersFrom_cons, membersFrom_cons]
    constructor
    · rintro rfl
      exact hs.elim
    apply bind_append (fun hkey => memberKey_append hkey u) hs
    intro key afterKey hkey
    refine ⟨h.ne_nil hkey, h.bind_append hkey ?_⟩
    intro value rest hrest
    exact continued_append (.inr rfl) hrest fun t ht => ih ht

theorem objectBody_append {t : Text} (hs : Settled Anything (objectBody item t)) (u : Text) :
    objectBody item (t ++ u) = extend u (objectBody item t) := by
  rw [objectBody_eq] at hs
  rw [objectBody_eq, objectBody_eq]
  exact opened_append hs fun _ ht => (membersFrom_append h ht u u).2

end

/-! ### Values -/

/-- A value that begins with no mark of its own is a word or a number. -/
theorem followed_of_settled {c : CodePoint} {t : Text} {r : Parsed Json}
    (hmark : ¬(c = point '"' ∨ c = point '[' ∨ c = point '\x7b'))
    (h : Settled (Bounded (c :: t)) r) : Settled Followed r := by
  have hnot : ¬Delimited (c :: t) := by
    rintro ⟨d, hd, hmark'⟩
    obtain rfl : c = d := by simpa using hd
    exact hmark hmark'
  cases r with
  | ok r => exact h.resolve_left hnot
  | error flaw => cases flaw <;> exact h

theorem parseValue_quote (depth : Nat) (t : Text) :
    parseValue depth (point '"' :: t) = (stringBody t).map fun r => (string r.1, r.2) := by
  cases depth <;> rfl

theorem parseValue_bracket (depth : Nat) (t : Text) :
    parseValue (depth + 1) (point '[' :: t) =
      (arrayBody (parseValue depth) t).map fun r => (array r.1, r.2) := rfl

theorem parseValue_brace (depth : Nat) (t : Text) :
    parseValue (depth + 1) (point '\x7b' :: t) =
      (objectBody (parseValue depth) t).map fun r => (object (Members.ofList r.1), r.2) := rfl

/-- What begins with no bracket or brace is read alike at every depth. -/
theorem parseValue_leaf_append {c : CodePoint} (hbracket : c ≠ point '[') (hbrace : c ≠ point '\x7b')
    {depth : Nat} {t : Text}
    (h : Settled (Bounded (c :: t)) (parseValue depth (c :: t)))
    (u : Text) : parseValue depth (c :: (t ++ u)) = extend u (parseValue depth (c :: t)) := by
  by_cases hquote : c = point '"'
  · subst hquote
    rw [parseValue_quote] at h
    rw [parseValue_quote, parseValue_quote, stringBody_append (settled_map.mp h).anything, extend_map]
  · rw [parseValue_scalar hquote hbracket hbrace] at h
    rw [parseValue_scalar hquote hbracket hbrace, parseValue_scalar hquote hbracket hbrace]
    exact parseScalar_append (followed_of_settled (by tauto) h) u

theorem parseValue_steady (depth : Nat) : Steady (parseValue depth) := by
  -- What stands inside brackets is read at one depth less.
  induction depth with
  | zero =>
    refine ⟨⟨.value, 0, rfl⟩, ?_⟩
    intro t u h
    cases t with
    | nil => exact h.elim
    | cons c t =>
      rw [List.cons_append]
      by_cases hbracket : c = point '['
      · subst hbracket
        rfl
      by_cases hbrace : c = point '\x7b'
      · subst hbrace
        rfl
      · exact parseValue_leaf_append hbracket hbrace h u
  | succ depth ih =>
    refine ⟨⟨.value, 0, rfl⟩, ?_⟩
    intro t u h
    cases t with
    | nil => exact h.elim
    | cons c t =>
      rw [List.cons_append]
      by_cases hbracket : c = point '['
      · subst hbracket
        rw [parseValue_bracket] at h ⊢
        have hbody := (settled_map (f := array)).mp h
        rw [parseValue_bracket, arrayBody_append ih hbody.anything]
        exact extend_map.symm
      by_cases hbrace : c = point '\x7b'
      · subst hbrace
        rw [parseValue_brace] at h ⊢
        have hbody := (settled_map (f := fun members => object (Members.ofList members))).mp h
        rw [parseValue_brace, objectBody_append ih hbody.anything]
        exact (extend_map (f := fun members => object (Members.ofList members))).symm
      · exact parseValue_leaf_append hbracket hbrace h u

/-! ### Whole texts -/

theorem parseNumber_ne_object {t rest : Text} {members : Members} :
    parseNumber t ≠ .ok (object members, rest) := by
  have hmagnitude : ∀ negative unsigned,
      magnitude negative t unsigned ≠ .ok (object members, rest) := by
    intro negative unsigned h
    simp only [magnitude] at h
    split at h
    · cases h
    split at h
    · split at h <;> cases h
    · cases h
  cases t with
  | nil =>
    intro h
    cases h
  | cons c t =>
    rw [parseNumber_cons]
    split
    · exact hmagnitude _ _
    · exact hmagnitude _ _

theorem parseScalar_ne_object {t rest : Text} {members : Members} :
    parseScalar t ≠ .ok (object members, rest) := by
  rcases parseScalar_cases t with ⟨word, hword, others, rfl⟩ | hnumber
  · have hvalues : ∀ word ∈ words, ∀ members, word.2 ≠ object members := by simp [words]
    rw [parseScalar_word hword]
    intro h
    exact hvalues word hword members (Prod.mk.inj (Except.ok.inj h)).1
  · rw [hnumber]
    exact parseNumber_ne_object

/-- Only a text that begins with a brace is read as an object. -/
theorem delimited_of_object {depth : Nat} {t rest : Text} {members : Members}
    (h : parseValue depth t = .ok (object members, rest)) : Delimited t := by
  cases t with
  | nil => cases depth <;> cases h
  | cons c t =>
    by_cases hmark : c = point '"' ∨ c = point '[' ∨ c = point '\x7b'
    · exact ⟨c, rfl, hmark⟩
    · simp only [not_or] at hmark
      rw [parseValue_scalar hmark.1 hmark.2.1 hmark.2.2] at h
      exact absurd h parseScalar_ne_object

/-- What a whole text denotes, by the value at its front and the rest. -/
def whole : Parsed Json → Except Flaw Json
  | .error flaw => .error flaw
  | .ok (value, rest) =>
    match skipBlanks rest with
    | [] => .ok value
    | c :: others => complain .extra (c :: others)

theorem decode_eq_whole {t : Text} (h : t.head? ≠ some byteOrderMark) (limit : Nat) :
    decode t limit = whole (parseValue limit (skipBlanks t)) := by
  rw [decode, if_neg h]
  rfl

theorem whole_eq_depth {r : Parsed Json} {nesting : Nesting}
    (h : whole r = .error (.depth nesting)) : r = .error (.depth nesting) := by
  cases r with
  | error flaw => exact congrArg _ (Except.error.inj h)
  | ok r =>
    rw [whole] at h
    split at h <;> cases h

theorem whole_eq_ok {r : Parsed Json} {value : Json} (h : whole r = .ok value) :
    ∃ rest, r = .ok (value, rest) ∧ skipBlanks rest = [] := by
  cases r with
  | error flaw => cases h
  | ok r =>
    obtain ⟨read, rest⟩ := r
    rw [whole] at h
    split at h
    · next hblank =>
      obtain rfl : read = value := Except.ok.inj h
      exact ⟨rest, rfl, hblank⟩
    · cases h

variable {t : Text} {limit : Nat}

theorem decode_append (hmark : t.head? ≠ some byteOrderMark)
    (h : Settled (Bounded (skipBlanks t)) (parseValue limit (skipBlanks t))) (u : Text) :
    decode (t ++ u) limit = whole (extend u (parseValue limit (skipBlanks t))) := by
  have hskip : skipBlanks t ≠ [] := by
    intro hnil
    rw [hnil, parseValue] at h
    exact h.elim
  have hhead : (t ++ u).head? ≠ some byteOrderMark := by
    cases t with
    | nil => exact absurd rfl hskip
    | cons c t => exact hmark
  rw [decode_eq_whole hhead, skipBlanks_append_of_ne_nil hskip,
    (parseValue_steady limit).append u h]

theorem head?_of_decode {outcome : Except Flaw Json} (h : decode t limit = outcome)
    (hmark : outcome ≠ complain .byteOrderMark t) : t.head? ≠ some byteOrderMark := by
  intro hhead
  rw [decode, if_pos hhead] at h
  exact hmark h.symm

theorem decode_append_of_depth {nesting : Nesting} (h : decode t limit = .error (.depth nesting))
    (u : Text) : decode (t ++ u) limit = .error (.depth nesting) := by
  have hmark := head?_of_decode h nofun
  rw [decode_eq_whole hmark] at h
  have hvalue := whole_eq_depth h
  rw [decode_append hmark (by rw [hvalue]; trivial), hvalue]
  rfl

/-- A whole text that is an object stays one only if nothing but blanks comes after it. -/
theorem decode_append_of_object {members : Members} (h : decode t limit = .ok (object members))
    (u : Text) : decode (t ++ u) limit = whole (.ok (object members, u)) := by
  have hmark := head?_of_decode h nofun
  rw [decode_eq_whole hmark] at h
  obtain ⟨rest, hvalue, hblank⟩ := whole_eq_ok h
  have hrest : skipBlanks (rest ++ u) = skipBlanks u := by
    rw [skipBlanks] at hblank ⊢
    rw [List.dropWhile_append, hblank]
    rfl
  have hsettled : Settled (Bounded (skipBlanks t)) (parseValue limit (skipBlanks t)) := by
    rw [hvalue]
    exact .inl (delimited_of_object hvalue)
  rw [decode_append hmark hsettled, hvalue, extend, Except.map, whole, whole, hrest]

end Json

end SupervisorRpc
