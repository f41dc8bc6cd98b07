import SupervisorRpc.Proofs.Json.Image
import SupervisorRpc.Proofs.Text.Decimal

/-! What can be written.  `Fits room v` says it of a value without the order in which it is written, and
`excess?_eq_none_iff` that nothing else keeps a value from being written.  Whatever was read can be
written with the same room. -/

namespace SupervisorRpc

namespace Json

/-- A value whose integers have at most 4300 digits, with at most `room` arrays and objects inside one
another. -/
inductive Fits : (room : Nat) → Json → Prop
  | null {room : Nat} : Fits room .null
  | bool {room : Nat} (b : Bool) : Fits room (.bool b)
  | integer {room : Nat} {i : Int} (h : (Text.ofNat i.natAbs).length ≤ digitLimit) :
      Fits room (.number (.int i))
  | float {room : Nat} (x : Float) : Fits room (.number (.float x))
  | string {room : Nat} (t : Text) : Fits room (.string t)
  | array {room : Nat} {items : List Json} (h : ∀ v ∈ items, Fits room v) :
      Fits (room + 1) (.array items)
  | object {room : Nat} {members : List (Text × Json)} (h : ∀ m ∈ members, Fits room m.2) :
      Fits (room + 1) (.object members)

variable {room : Nat}

theorem excess?_of_digits {i : Int} (h : 10 ^ digitLimit ≤ i.natAbs) :
    (number (.int i)).excess? room = some .digits := by
  rw [excess?, if_pos (Text.lt_length_ofNat h)]

theorem excess?_integer_eq_none_iff {i : Int} :
    (number (.int i)).excess? room = none ↔ (Text.ofNat i.natAbs).length ≤ digitLimit := by
  rw [excess?]
  split <;> simp <;> omega

theorem itemsExcess?_eq_none_iff {items : List Json} :
    itemsExcess? room items = none ↔ ∀ v ∈ items, v.excess? room = none := by
  induction items with
  | nil => simp [itemsExcess?]
  | cons v items ih => simp [itemsExcess?, ih]

theorem membersExcess?_eq_none_iff {members : List (Text × Json)} :
    membersExcess? room members = none ↔ ∀ m ∈ members, m.2.excess? room = none := by
  induction members with
  | nil => simp [membersExcess?]
  | cons m members ih => simp [membersExcess?, ih]

/-- A value that can be written fits if what stands inside its brackets does. -/
theorem fits_of_inside {v : Json} (h : v.excess? room = none)
    (inside : ∀ depth, room = depth + 1 → ∀ w : Json, w.excess? depth = none → Fits depth w) :
    Fits room v := by
  cases v with
  | null => exact .null
  | bool b => exact .bool b
  | number n =>
    cases n with
    | int i => exact .integer (excess?_integer_eq_none_iff.mp h)
    | float x => exact .float x
  | string t => exact .string t
  | array items =>
    cases room with
    | zero => simp [excess?] at h
    | succ depth =>
      exact .array fun v hv => inside depth rfl v (itemsExcess?_eq_none_iff.mp h v hv)
  | object members =>
    cases room with
    | zero => simp [excess?] at h
    | succ depth =>
      exact .object fun m hm => inside depth rfl m.2 (membersExcess?_eq_none_iff.mp h m hm)

/-- A value can be written exactly if it fits. -/
theorem excess?_eq_none_iff {v : Json} : v.excess? room = none ↔ Fits room v := by
  constructor
  · intro h
    induction room generalizing v with
    | zero => exact fits_of_inside h nofun
    | succ depth ih =>
      refine fits_of_inside h fun inner hroom w hw => ?_
      obtain rfl := Nat.succ.inj hroom
      exact ih hw
  · intro h
    induction h with
    | null | bool | float | string => rfl
    | integer h => exact excess?_integer_eq_none_iff.mpr h
    | array _ ih => exact itemsExcess?_eq_none_iff.mpr ih
    | object _ ih => exact membersExcess?_eq_none_iff.mpr ih

theorem Plain.fits {v : Json} (h : Plain room v) : Fits room v := by
  induction h with
  | null => exact .null
  | bool b => exact .bool b
  | integer h => exact .integer h
  | string _ => exact .string _
  | array _ ih => exact .array ih
  | object _ _ _ ih => exact .object ih

theorem Decoded.fits {v : Json} (h : Decoded room v) : Fits room v := by
  induction h with
  | scalar h => exact (h.mono (Nat.zero_le _)).fits
  | float x => exact .float x
  | array _ ih => exact .array ih
  | object _ _ _ ih => exact .object ih

end Json

end SupervisorRpc
