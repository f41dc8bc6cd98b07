import SupervisorRpc.Connection.Basic
import SupervisorRpc.Proofs.Acts

/-! What the operations of a connection come to: one equation for each operation on an open
connection, with its result, the connection after it, and its activities. -/

namespace SupervisorRpc

/-- What the ending of a line gives to the caller. -/
def LineEnd.result : LineEnd → Except Failure (List UInt8)
  | .line bytes => .ok (stripReturns bytes)
  | .truncated bytes => .error (.truncated bytes.length)
  | .fault f => .error (.fault f)

namespace Connection

/-- The fault that closing raises: the socket's, or else the reader's. -/
def closeFault? (c : Connection) : Option Fault := c.socketFault.or c.readerFault

/-- The activities of closing an open connection. -/
def closeTrace (c : Connection) : List Activity :=
  .closeReader :: .closeSocket ::
    if c.closeFault?.isSome then [] else [.log .debug logger "Socket connection closed"]

/-- How an act on the connection ends when the connection is closed after it. -/
def ending {α : Type} (c : Connection) (ended : Except Failure α) : Except Failure α :=
  match c.closeFault? with
  | none => ended
  | some f => .error (.fault f)

variable {c : Connection}

theorem writeLine_run (hopen : c.closed = false) {line : Text}
    (hline : Utf8.surrogateRun? line = none) (hfault : c.sendFault = none) :
    writeLine line c = ⟨.ok (), c, [.send (line ++ [point '\n'])]⟩ := by
  simp [writeLine, hopen, hline, hfault]

theorem writeLine_run_fault (hopen : c.closed = false) {line : Text}
    (hline : Utf8.surrogateRun? line = none) {f : Fault} (hfault : c.sendFault = some f) :
    writeLine line c = ⟨.error (.fault f), c, []⟩ := by
  simp [writeLine, hopen, hline, hfault]

theorem readLine_run (hopen : c.closed = false) {ended : Except Failure (List UInt8)}
    (hread : c.incoming.readLine.1.result = ended) :
    readLine c = ⟨ended, { c with incoming := c.incoming.readLine.2 }, []⟩ := by
  simp only [readLine, Act.getState_bind_run, hopen, Bool.false_eq_true, if_false,
    Act.setState_bind_run, ← hread]
  cases c.incoming.readLine.1 <;> rfl

/-- A closed connection stays as it is. -/
theorem close_run_closed (hclosed : c.closed = true) : close c = ⟨.ok (), c, []⟩ := by
  simp [close, hclosed]

theorem close_run (hopen : c.closed = false) (hfault : c.closeFault? = none) :
    close c = ⟨.ok (), { c with closed := true }, c.closeTrace⟩ := by
  obtain ⟨hsocket, hreader⟩ : c.socketFault = none ∧ c.readerFault = none := by
    simpa [closeFault?] using hfault
  have hends : Act.ensuring
      (do Act.perform .closeReader; Act.raise c.readerFault)
      (do Act.perform .closeSocket; Act.raise c.socketFault) { c with closed := true } =
        ⟨.ok (), { c with closed := true }, [.closeReader, .closeSocket]⟩ := by
    simp [Act.ensuring, hsocket, hreader, Outcome.after]
  simp only [close, Act.getState_bind_run, hopen, Bool.false_eq_true, if_false,
    Act.setState_bind_run]
  rw [Act.bind_run_ok hends]
  simp [closeTrace, hfault, Outcome.after]

theorem close_run_fault (hopen : c.closed = false) {f : Fault} (hfault : c.closeFault? = some f) :
    close c = ⟨.error (.fault f), { c with closed := true }, c.closeTrace⟩ := by
  have hends : Act.ensuring
      (do Act.perform .closeReader; Act.raise c.readerFault)
      (do Act.perform .closeSocket; Act.raise c.socketFault) { c with closed := true } =
        ⟨.error (.fault f), { c with closed := true }, [.closeReader, .closeSocket]⟩ := by
    cases hsocket : c.socketFault with
    | none =>
      have hreader : c.readerFault = some f := by simpa [closeFault?, hsocket] using hfault
      simp [Act.ensuring, hreader, Outcome.after]
    | some g =>
      obtain rfl : g = f := by simpa [closeFault?, hsocket] using hfault
      cases c.readerFault <;> simp [Act.ensuring, Outcome.after]
  simp only [close, Act.getState_bind_run, hopen, Bool.false_eq_true, if_false,
    Act.setState_bind_run]
  rw [Act.bind_run_error hends]
  simp [closeTrace, hfault]

/-- An act that leaves the connection open is followed by one closing, whose fault takes the place of
how the act ended. -/
theorem ensuring_close_run {α : Type} {x : Act Connection α} {s : Connection}
    {ended : Except Failure α} {trace : List Activity} (h : x s = ⟨ended, c, trace⟩)
    (hopen : c.closed = false) :
    Act.ensuring x close s = ⟨c.ending ended, { c with closed := true }, trace ++ c.closeTrace⟩ := by
  have hstate : (x s).state = c := by rw [h]
  cases hfault : c.closeFault? with
  | none =>
    have hclose := hstate ▸ close_run hopen hfault
    rw [Act.ensuring_run_ok x hclose, h, ending, hfault]
  | some f =>
    have hclose := hstate ▸ close_run_fault hopen hfault
    rw [Act.ensuring_run_error x hclose, h, ending, hfault]

end Connection

end SupervisorRpc
