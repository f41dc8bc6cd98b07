import Mathlib.Data.List.TakeWhile
import SupervisorRpc.Connection.Script
import SupervisorRpc.Proofs.Connection.Items
import SupervisorRpc.Proofs.Connection.Steps

/-! Receiving lines while the peer goes on sending.  `receiveItems` receives from single items and has
no buffer: it takes items up to the first newline or fault.  A script that receives lines, with more
arriving between them, gives the same, however the peer's bytes were cut into chunks. -/

namespace SupervisorRpc

namespace Incoming

/-- More data comes behind the items that are still to be read. -/
theorem items_push (i : Incoming) (a : Arrival) : (i.push a).items = i.items ++ a.items := by
  simp [items, push]

/-- A fault before the first newline is raised, and what was read before it is dropped. -/
theorem readItems_fault {bytes : List UInt8} (h : newline ∉ bytes) {f : Fault}
    (hf : f.isInterrupt = false) (rest : List Item) :
    readItems [] (bytes.map .byte ++ .fault f :: rest) = (.fault f, rest) := by
  rw [readItems_bytes, cutLine_of_notMem h]
  simp [readItems, hf]

/-- Bytes without a newline that end are no line. -/
theorem readItems_truncated {bytes : List UInt8} (h : newline ∉ bytes) :
    readItems [] (bytes.map .byte) = (.truncated bytes, []) := by
  have hread := readItems_bytes bytes [] []
  rw [List.append_nil, cutLine_of_notMem h] at hread
  exact hread

end Incoming

/-- Only carriage returns are taken off the end of a line, and all that stand there. -/
theorem stripReturns_spec (line : List UInt8) :
    (∃ n, line = stripReturns line ++ List.replicate n carriageReturn) ∧
      (stripReturns line).getLast? ≠ some carriageReturn := by
  have hsplit := List.takeWhile_append_dropWhile (p := (· = carriageReturn)) (l := line.reverse)
  constructor
  · refine ⟨(line.reverse.takeWhile (· = carriageReturn)).length, ?_⟩
    have hreturns : line.reverse.takeWhile (· = carriageReturn) =
        List.replicate (line.reverse.takeWhile (· = carriageReturn)).length carriageReturn := by
      rw [List.eq_replicate_iff]
      exact ⟨rfl, fun b hb => by simpa using List.mem_takeWhile_imp hb⟩
    have hline := congrArg List.reverse hsplit
    rw [List.reverse_append, List.reverse_reverse, hreturns, List.reverse_replicate] at hline
    exact hline.symm
  · rw [stripReturns, List.getLast?_reverse]
    intro hhead
    have := List.head?_dropWhile_not (· = carriageReturn) line.reverse
    rw [hhead] at this
    simp at this

namespace Connection

/-- A turn in the use of a connection for receiving: a line is received, or the peer sends more. -/
inductive Turn where
  | receive
  | arrive (a : Arrival)

namespace Turn

/-- The step of a turn. -/
def step : Turn → ScriptStep
  | receive => .readLine
  | arrive a => .peerSend a

/-- A turn item by item; `none` stands for the receiving of a line. -/
def items : Turn → List (Option Item)
  | receive => [none]
  | arrive a => a.items.map some

end Turn

/-- What receiving gives when there is no buffer: `items` are still to be read, and an item that
arrives goes behind them. -/
def receiveItems (items : List Item) : List (Option Item) → List (Except Failure Reply)
  | [] => []
  | some item :: rest => receiveItems (items ++ [item]) rest
  | none :: rest =>
    let read := Incoming.readItems [] items
    read.1.result.map .line :: receiveItems read.2 rest

/-- The step that ended so was more than a change of the world. -/
def isReceipt : Except Failure Reply → Bool
  | .ok .done => false
  | _ => true

/-- What the steps that receive gave. -/
def receipts (outcomes : List (Outcome Connection Reply)) : List (Except Failure Reply) :=
  (outcomes.map (·.result)).filter isReceipt

theorem receiveItems_arrivals (new items : List Item) (rest : List (Option Item)) :
    receiveItems items (new.map some ++ rest) = receiveItems (items ++ new) rest := by
  induction new generalizing items with
  | nil => simp
  | cons item new ih => simp [receiveItems, ih]

theorem isReceipt_line (ended : Except Failure (List UInt8)) :
    isReceipt (ended.map .line) = true := by
  cases ended <;> rfl

variable {c : Connection}

theorem runStep_readLine (hopen : c.closed = false) :
    runStep .readLine c =
      ⟨c.incoming.readLine.1.result.map .line, { c with incoming := c.incoming.readLine.2 }, []⟩ := by
  rw [runStep]
  cases hended : c.incoming.readLine.1.result with
  | ok line =>
    rw [Act.bind_run_ok (readLine_run hopen hended)]
    rfl
  | error e => exact Act.bind_run_error (readLine_run hopen hended) _

theorem runStep_peerSend (a : Arrival) :
    runStep (.peerSend a) c = ⟨.ok .done, { c with incoming := c.incoming.push a }, []⟩ := rfl

theorem receipts_eq_receiveItems (hopen : c.closed = false) (turns : List Turn) :
    receipts (runScript c (turns.map Turn.step)) =
      receiveItems c.incoming.items (turns.flatMap Turn.items) := by
  induction turns generalizing c with
  | nil => rfl
  | cons turn turns ih =>
    rw [List.map_cons, runScript, List.flatMap_cons]
    cases turn with
    | receive =>
      obtain ⟨hended, hitems⟩ := Incoming.readLine_eq_readItems c.incoming
      have hrest := ih (c := { c with incoming := c.incoming.readLine.2 }) hopen
      rw [Turn.step, runStep_readLine hopen, receipts, List.map_cons,
        List.filter_cons_of_pos (isReceipt_line _), ← receipts, hrest, hended, hitems]
      rfl
    | arrive a =>
      have hrest := ih (c := { c with incoming := c.incoming.push a }) hopen
      rw [Turn.step, runStep_peerSend, receipts, List.map_cons,
        List.filter_cons_of_neg (by simp [isReceipt]), ← receipts, hrest, Incoming.items_push,
        Turn.items, receiveItems_arrivals]

/-- Receiving from chunks, with more arriving at any time, gives what receiving without a buffer gives
on the single items: the bytes up to the first newline without the carriage returns at their end;
or the fault that comes before, the bytes before it being lost and those after it kept; or, where
the data end first, how many bytes there were.  So the places where the peer's bytes were cut have
no part in it. -/
theorem receives_unbuffered (hopen : c.closed = false) (turns : List Turn) :
    receipts (runScript c (turns.map Turn.step)) =
        receiveItems c.incoming.items (turns.flatMap Turn.items) ∧
      (∀ (line : List UInt8) rest later, newline ∉ line →
        receiveItems (line.map .byte ++ .byte newline :: rest) (none :: later) =
          .ok (.line (stripReturns line)) :: receiveItems rest later) ∧
      (∀ (line : List UInt8) f rest later, newline ∉ line → f.isInterrupt = false →
        receiveItems (line.map .byte ++ .fault f :: rest) (none :: later) =
          .error (.fault f) :: receiveItems rest later) ∧
      (∀ (line : List UInt8) later, newline ∉ line →
        receiveItems (line.map .byte) (none :: later) =
          .error (.truncated line.length) :: receiveItems [] later) ∧
      (∀ line, (∃ n, line = stripReturns line ++ List.replicate n carriageReturn) ∧
        (stripReturns line).getLast? ≠ some carriageReturn) ∧
      (∀ count, (Failure.truncated count).errorClass = .connection ∧
        (Failure.truncated count).message =
          text "connection closed after " ++ Text.ofNat count ++
            text " bytes, expected a newline-terminated response") ∧
      ∀ (c' : Connection) (turns' : List Turn), c'.closed = false →
        c'.incoming.items = c.incoming.items →
        turns'.flatMap Turn.items = turns.flatMap Turn.items →
        receipts (runScript c' (turns'.map Turn.step)) =
          receipts (runScript c (turns.map Turn.step)) := by
  refine ⟨receipts_eq_receiveItems hopen turns, ?_, ?_, ?_, stripReturns_spec,
    fun count => ⟨rfl, rfl⟩, ?_⟩
  · intro line rest later hline
    rw [receiveItems, Incoming.readItems_line hline]
    rfl
  · intro line f rest later hline hf
    rw [receiveItems, Incoming.readItems_fault hline hf]
    rfl
  · intro line later hline
    rw [receiveItems, Incoming.readItems_truncated hline]
    rfl
  · intro c' turns' hopen' hitems hturns
    rw [receipts_eq_receiveItems hopen' turns', receipts_eq_receiveItems hopen turns, hitems,
      hturns]

/-- A carriage return and its newline in two chunks, a fault within a line, and data after the end of
the data. -/
theorem receives_unbuffered_between_chunks :
    let c : Connection :=
      ⟨⟨[], [.data [0x61, 0x0D], .data [], .data [0x0A, 0x62], .fault ⟨.timeout, .none⟩,
        .data [0x63, 0x0A, 0x64]]⟩, none, none, none, false⟩
    receipts (runScript c
        [.readLine, .readLine, .readLine, .readLine, .peerSend (.data [0x65, 0x0A]), .readLine]) =
      [.ok (.line [0x61]), .error (.fault ⟨.timeout, .none⟩), .ok (.line [0x63]),
        .error (.truncated 1), .ok (.line [0x65])] :=
  (receives_unbuffered rfl [.receive, .receive, .receive, .receive, .arrive (.data [0x65, 0x0A]),
    .receive]).1

end Connection

end SupervisorRpc
