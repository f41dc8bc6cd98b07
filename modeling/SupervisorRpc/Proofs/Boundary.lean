import SupervisorRpc.Proofs.Json.Continuing
import SupervisorRpc.Proofs.Response
import SupervisorRpc.Proofs.Text.Decoding
import Mathlib.Data.List.TakeWhile

/-! Where a response ends.  Bytes that are accepted as a response object are no longer accepted with
anything but blanks behind them, nor after a cut that takes anything but blanks away: a response that
is cut short, and one with data behind it, count as parse errors. -/

namespace SupervisorRpc

namespace Response

/-- What comes of a response object: its result, or the error that it reports. -/
inductive Accepted : Except Failure Json → Prop
  | given (value : Json) : Accepted (.ok value)
  | reported (line : Text) (error : Json) : Accepted (.error (.rpc (.reported line error)))

/-- The bytes are a response object in which at most `limit` arrays and objects are inside one another. -/
def Accepts (limit : Nat) (method : Text) (raw : List UInt8) : Prop :=
  Accepted (read limit method raw ()).result

/-- The bytes fail as a response that reports no error, and are measured as a parse error and as nothing
else. -/
structure Refuses (limit : Nat) (method : Text) (raw : List UInt8) : Prop where
  failure : ∃ e : RpcError, (read limit method raw ()).result = .error (.rpc e) ∧ e.error? = none
  measured : measurements (read limit method raw ()).trace = [Metric.errorCounted .parse method]

/-- The bytes of the blanks between tokens. -/
def BlankBytes (raw : List UInt8) : Prop :=
  ∀ b ∈ raw, b = 0x20 ∨ b = 0x09 ∨ b = 0x0A ∨ b = 0x0D

variable {limit : Nat} {method : Text} {raw more : List UInt8}

theorem accepts_iff :
    Accepts limit method raw ↔ ∃ members, decode limit raw = .ok (.object members) := by
  obtain ⟨ended, trace, hreading, hrun⟩ := reading_run limit method raw
  rw [Accepts, hrun Unit ()]
  constructor
  · intro h
    cases hreading with
    | accepted hdecode _ => exact ⟨_, hdecode⟩
    | reported hdecode _ => exact ⟨_, hdecode⟩
    | tooDeep | unreadable | notObject => nomatch h
  · rintro ⟨members, hmembers⟩
    cases hreading with
    | accepted => exact .given _
    | reported => exact .reported _ _
    | tooDeep hdecode | unreadable hdecode =>
      rw [hmembers] at hdecode
      cases hdecode
    | notObject hdecode hvalue =>
      rw [hmembers] at hdecode
      exact absurd (Except.ok.inj hdecode).symm (hvalue members)

theorem refuses_of_not_accepts (h : ¬Accepts limit method raw)
    (hdeep : ∀ nesting, decode limit raw ≠ .error (.json (.depth nesting))) :
    Refuses limit method raw := by
  obtain ⟨ended, trace, hreading, hrun⟩ := reading_run limit method raw
  obtain ⟨counted, hverdict, hcounted⟩ := hreading.verdict hdeep
  rw [Accepts, hrun Unit ()] at h
  cases hverdict with
  | accepted value => exact absurd (.given value) h
  | @reported e members he hline herror =>
    cases e with
    | reported line error => exact absurd (.reported line error) h
    | unreadable | notObject => cases he
  | @unparsed e he hline =>
    constructor
    · rw [hrun Unit ()]
      exact ⟨e, rfl, he⟩
    · rw [hrun Unit ()]
      exact hcounted

/-! ### Bytes with more bytes behind them -/

theorem decode_ok {value : Json} (h : decode limit raw = .ok value) :
    ∃ t, Utf8.decode raw = .ok t ∧ Json.decode t limit = .ok value := by
  rw [decode] at h
  cases ht : Utf8.decode raw with
  | error m => simp [ht] at h
  | ok t =>
    cases hvalue : Json.decode t limit with
    | error flaw => simp [ht, hvalue] at h
    | ok v =>
      simp only [ht, hvalue, Except.ok.injEq] at h
      exact ⟨t, rfl, h ▸ hvalue⟩

theorem decode_depth {nesting : Json.Nesting}
    (h : decode limit raw = .error (.json (.depth nesting))) :
    ∃ t, Utf8.decode raw = .ok t ∧ Json.decode t limit = .error (.depth nesting) := by
  rw [decode] at h
  cases ht : Utf8.decode raw with
  | error m => simp [ht] at h
  | ok t =>
    cases hvalue : Json.decode t limit with
    | error flaw =>
      simp only [ht, hvalue, Except.error.injEq, Unreadable.json.injEq] at h
      exact ⟨t, rfl, h ▸ hvalue⟩
    | ok v => simp [ht, hvalue] at h

theorem blankBytes_of_decode {u : Text} (h : Utf8.decode raw = .ok u)
    (hblank : Json.skipBlanks u = []) : BlankBytes raw := by
  have hbytes : Utf8.encodePoint (point ' ') = [0x20] ∧ Utf8.encodePoint (point '\t') = [0x09] ∧
      Utf8.encodePoint (point '\n') = [0x0A] ∧ Utf8.encodePoint (point '\r') = [0x0D] := by
    decide +kernel
  obtain ⟨hspace, htab, hline, hreturn⟩ := hbytes
  obtain ⟨rfl, -⟩ := Utf8.eq_encode_of_decode h
  intro b hb
  obtain ⟨c, hc, hb⟩ := List.mem_flatMap.mp hb
  have hblank : Json.isBlank c = true := by
    rw [Json.skipBlanks, List.dropWhile_eq_nil_iff] at hblank
    exact hblank c hc
  simp only [Json.isBlank, Bool.or_eq_true, decide_eq_true_eq] at hblank
  rcases hblank with ((rfl | rfl) | rfl) | rfl
  · rw [hspace, List.mem_singleton] at hb
    exact .inl hb
  · rw [htab, List.mem_singleton] at hb
    exact .inr (.inl hb)
  · rw [hline, List.mem_singleton] at hb
    exact .inr (.inr (.inl hb))
  · rw [hreturn, List.mem_singleton] at hb
    exact .inr (.inr (.inr hb))

/-- What comes behind an object makes it neither too deep nor, unless it is blank, another value. -/
theorem decode_append_of_object {members : Json.Members}
    (h : decode limit raw = .ok (.object members)) :
    (∀ nesting, decode limit (raw ++ more) ≠ .error (.json (.depth nesting))) ∧
      ∀ value, decode limit (raw ++ more) = .ok value → BlankBytes more := by
  obtain ⟨t, ht, hobject⟩ := decode_ok h
  constructor
  · intro nesting hdeep
    obtain ⟨t', ht', hdeep⟩ := decode_depth hdeep
    obtain ⟨u, rfl, -⟩ := Utf8.decode_append ht ht'
    rw [Json.decode_append_of_object hobject] at hdeep
    cases Json.whole_eq_depth hdeep
  · intro value hvalue
    obtain ⟨t', ht', hvalue⟩ := decode_ok hvalue
    obtain ⟨u, rfl, hu⟩ := Utf8.decode_append ht ht'
    rw [Json.decode_append_of_object hobject] at hvalue
    obtain ⟨rest, hrest, hblank⟩ := Json.whole_eq_ok hvalue
    obtain rfl : u = rest := (Prod.mk.inj (Except.ok.inj hrest)).2
    exact blankBytes_of_decode hu hblank

theorem decode_ne_depth_of_append {members : Json.Members}
    (h : decode limit (raw ++ more) = .ok (.object members)) (nesting : Json.Nesting) :
    decode limit raw ≠ .error (.json (.depth nesting)) := by
  intro hdeep
  obtain ⟨t, ht, hdeep⟩ := decode_depth hdeep
  obtain ⟨t', ht', hobject⟩ := decode_ok h
  obtain ⟨u, rfl, -⟩ := Utf8.decode_append ht ht'
  rw [Json.decode_append_of_depth hdeep] at hobject
  cases hobject

/-! ### Responses -/

/-- A response is accepted as a whole.  Of bytes and the same bytes with more behind them, both are
accepted only if there is nothing but blanks more.  If either is accepted, and more than blanks makes
the difference, the other is a parse error; so is any part of a response that ends in its brace. -/
theorem accepts_whole (limit : Nat) (method : Text) (raw more : List UInt8) :
    (Accepts limit method raw → Accepts limit method (raw ++ more) → BlankBytes more) ∧
    (Accepts limit method raw → ¬BlankBytes more → Refuses limit method (raw ++ more)) ∧
    (Accepts limit method (raw ++ more) → ¬BlankBytes more → Refuses limit method raw) ∧
    (Accepts limit method (raw ++ more) → (raw ++ more).getLast? = some 0x7D → more ≠ [] →
      Refuses limit method raw) := by
  have hboth : Accepts limit method raw → Accepts limit method (raw ++ more) → BlankBytes more := by
    intro hraw hwhole
    obtain ⟨members, hmembers⟩ := accepts_iff.mp hraw
    obtain ⟨members', hmembers'⟩ := accepts_iff.mp hwhole
    exact (decode_append_of_object hmembers).2 _ hmembers'
  have hcut : Accepts limit method (raw ++ more) → ¬BlankBytes more → Refuses limit method raw := by
    intro hwhole hblank
    obtain ⟨members, hmembers⟩ := accepts_iff.mp hwhole
    exact refuses_of_not_accepts (fun hraw => hblank (hboth hraw hwhole))
      (decode_ne_depth_of_append hmembers)
  refine ⟨hboth, ?_, hcut, ?_⟩
  · intro hraw hblank
    obtain ⟨members, hmembers⟩ := accepts_iff.mp hraw
    exact refuses_of_not_accepts (fun hwhole => hblank (hboth hraw hwhole))
      (decode_append_of_object hmembers).1
  · intro hwhole hlast hmore
    apply hcut hwhole
    intro hblank
    -- The brace at the end is among the bytes that were cut off, and is no blank.
    have hbrace : (0x7D : UInt8) ∈ more := by
      rw [List.getLast?_append_of_ne_nil _ hmore] at hlast
      exact List.mem_of_getLast? hlast
    exact absurd (hblank _ hbrace) (by decide)

/-- A response, the same with a return behind it, twice the same, and a cut within a code point. -/
theorem accepts_whole_status :
    let response := Utf8.encode "\x7b\"result\":\"\u00e9\"\x7d"
    Accepts 1 "status" response ∧ Accepts 1 "status" (response ++ [0x0D]) ∧ BlankBytes [0x0D] ∧
      Refuses 1 "status" (response ++ response) ∧ Refuses 1 "status" (response.take 12) := by
  intro response
  have haccepts : ∀ {t : Text} {members : Json.Members}, (∀ c ∈ t, c.isSurrogate = false) →
      Json.decode t 1 = .ok (.object members) → Accepts 1 "status" (Utf8.encode t) := by
    intro t members hplain hobject
    exact accepts_iff.mpr ⟨members, decode_encode hplain hobject⟩
  have hresponse : Accepts 1 "status" response := haccepts (by decide) rfl
  have hreturn : Accepts 1 "status" (response ++ [0x0D]) :=
    haccepts (t := text "\x7b\"result\":\"\u00e9\"\x7d\r") (by decide) rfl
  have hnot : ∀ {more : List UInt8}, 0x7D ∈ more → ¬BlankBytes more := by
    intro more hmore hblank
    exact absurd (hblank _ hmore) (by decide)
  obtain ⟨hblank, -, -, -⟩ := accepts_whole 1 "status" response [0x0D]
  obtain ⟨-, htwice, -, -⟩ := accepts_whole 1 "status" response response
  obtain ⟨-, -, -, hcut⟩ := accepts_whole 1 "status" (response.take 12) (response.drop 12)
  refine ⟨hresponse, hreturn, hblank hresponse hreturn, htwice hresponse (hnot (by decide)), ?_⟩
  exact hcut hresponse (by decide) (by decide)

end Response

end SupervisorRpc
