import SupervisorRpc.Connection.Lines

/-! Reading without a buffer.  The peer's arrivals are one sequence of bytes and faults, and
`Incoming.readItems` reads a line from that sequence one item at a time.  `Incoming.readLine`, which
reads chunks and keeps what follows a line, ends in the same way and leaves the same items. -/

namespace SupervisorRpc

/-- A single thing that arrives: a byte, or a fault in place of bytes. -/
inductive Item where
  | byte (b : UInt8)
  | fault (f : Fault)
deriving DecidableEq

/-- The items of an arrival. -/
def Arrival.items : Arrival → List Item
  | .data bytes => bytes.map .byte
  | .fault f => [.fault f]

namespace Incoming

/-- The items that are still to be read, those of the buffer first. -/
def items (i : Incoming) : List Item := i.buffer.map .byte ++ i.pending.flatMap Arrival.items

/-- Reads on, item by item, with `line` read already: how the line ends, and the items after it.  An
interrupt is passed over. -/
def readItems (line : List UInt8) : List Item → LineEnd × List Item
  | [] => (.truncated line, [])
  | .fault f :: rest => if f.isInterrupt then readItems line rest else (.fault f, rest)
  | .byte b :: rest => if b = newline then (.line line, rest) else readItems (line ++ [b]) rest

theorem cutLine_cons (b : UInt8) (bytes : List UInt8) :
    cutLine (b :: bytes) =
      if b = newline then ([], some bytes)
      else (b :: (cutLine bytes).1, (cutLine bytes).2) := by
  by_cases h : b = newline <;> simp [cutLine, h]

/-- Items that begin with bytes are read as the bytes before the first newline. -/
theorem readItems_bytes (bytes line : List UInt8) (rest : List Item) :
    readItems line (bytes.map .byte ++ rest) =
      match cutLine bytes with
      | (before, some after) => (.line (line ++ before), after.map .byte ++ rest)
      | (before, none) => readItems (line ++ before) rest := by
  induction bytes generalizing line with
  | nil => simp [cutLine]
  | cons b bytes ih =>
    rw [cutLine_cons, List.map_cons, List.cons_append, readItems]
    by_cases h : b = newline
    · simp [h]
    · rw [if_neg h, if_neg h, ih]
      split <;> simp_all

theorem cutLine_of_notMem {bytes : List UInt8} (h : newline ∉ bytes) :
    cutLine bytes = (bytes, none) := by
  induction bytes with
  | nil => rfl
  | cons b bytes ih =>
    obtain ⟨hb, hbytes⟩ : newline ≠ b ∧ newline ∉ bytes := by simpa using h
    rw [cutLine_cons, if_neg (Ne.symm hb), ih hbytes]

/-- Bytes up to a newline are a line. -/
theorem readItems_line {bytes : List UInt8} (h : newline ∉ bytes) (rest : List Item) :
    readItems [] (bytes.map .byte ++ .byte newline :: rest) = (.line bytes, rest) := by
  rw [readItems_bytes, cutLine_of_notMem h]
  simp [readItems]

theorem readFrom_eq_readItems (pending : List Arrival) (line buffer : List UInt8) :
    (readFrom line buffer pending).1 = (readItems line (items ⟨buffer, pending⟩)).1 ∧
      (readFrom line buffer pending).2.items = (readItems line (items ⟨buffer, pending⟩)).2 := by
  induction pending generalizing line buffer with
  | nil =>
    rw [items, readItems_bytes, readFrom]
    obtain ⟨before, after⟩ := cutLine buffer
    cases after <;> simp [items, readItems]
  | cons arrival rest ih =>
    rw [items, readItems_bytes, readFrom]
    obtain ⟨before, after⟩ := cutLine buffer
    cases after with
    | some after => simp [items]
    | none =>
      -- No newline is at hand, so the next arrival decides.
      cases arrival with
      | data bytes => simpa [items, Arrival.items] using ih (line ++ before) bytes
      | fault f =>
        by_cases hf : f.isInterrupt = true
        · simpa [hf, items, Arrival.items, readItems] using ih (line ++ before) []
        · simp [hf, items, Arrival.items, readItems]

/-- Reading from chunks is reading item by item. -/
theorem readLine_eq_readItems (i : Incoming) :
    i.readLine.1 = (readItems [] i.items).1 ∧ i.readLine.2.items = (readItems [] i.items).2 :=
  readFrom_eq_readItems i.pending [] i.buffer

/-- The line that is read has no newline in it. -/
theorem newline_notMem_of_readItems {items : List Item} {line bytes : List UInt8}
    (hline : newline ∉ line) (h : (readItems line items).1 = .line bytes) : newline ∉ bytes := by
  induction items generalizing line with
  | nil => cases h
  | cons item items ih =>
    rw [readItems.eq_def] at h
    cases item with
    | byte b =>
      dsimp only at h
      split at h
      · exact LineEnd.line.inj h ▸ hline
      next hb => exact ih (by simpa [hline] using Ne.symm hb) h
    | fault f =>
      dsimp only at h
      split at h
      · exact ih hline h
      · cases h

/-- What comes after a newline has no part in how the line ends. -/
theorem readItems_newline (line : List UInt8) (before rest rest' : List Item) :
    (readItems line (before ++ .byte newline :: rest)).1 =
      (readItems line (before ++ .byte newline :: rest')).1 := by
  induction before generalizing line with
  | nil => simp [readItems]
  | cons item before ih =>
    cases item with
    | byte b =>
      simp only [List.cons_append, readItems]
      by_cases h : b = newline
      · simp [h]
      · simpa [h] using ih (line ++ [b])
    | fault f =>
      simp only [List.cons_append, readItems]
      by_cases h : f.isInterrupt = true
      · simpa [h] using ih line
      · simp [h]

end Incoming

end SupervisorRpc
