import SupervisorRpc.Failure

/-! Reading lines from a peer that sends in chunks.  `Incoming.readLine` keeps what it read past the
end of a line for the next one.

The arrivals are what raw reads deliver to the reader of lines.  What a socket makes of its own state
lies below that and is left out: it turns a read that would block into a short one, and after a read
that timed out it refuses all others.  Such a refusal is an arrival like any other fault. -/

namespace SupervisorRpc

/-- What arrives from the peer: bytes, or a fault in place of bytes. -/
inductive Arrival where
  | data (bytes : List UInt8)
  | fault (f : Fault)
deriving DecidableEq

/-- The receiving side of a connection: bytes already taken from the peer, and what is still to
come. -/
structure Incoming where
  buffer : List UInt8
  pending : List Arrival
deriving DecidableEq

def newline : UInt8 := 0x0A

def carriageReturn : UInt8 := 0x0D

/-- How the reading of a line ends: with its bytes, less the newline; at the end of the data after
some bytes of a line; or with a fault. -/
inductive LineEnd where
  | line (bytes : List UInt8)
  | truncated (bytes : List UInt8)
  | fault (f : Fault)
deriving DecidableEq

namespace Incoming

/-- The bytes before the first newline, and those after it if there is one. -/
def cutLine (bytes : List UInt8) : List UInt8 × Option (List UInt8) :=
  (bytes.takeWhile (· != newline), (bytes.dropWhile (· != newline)).tail?)

/-- Reads on with `line` read already and `buffer` at hand; `pending` is what the raw reads to come
deliver, not what a socket is sent.  A fault drops the part of the line read so far and leaves what
follows it; an interrupt is passed over. -/
def readFrom (line buffer : List UInt8) : (pending : List Arrival) → LineEnd × Incoming
  | [] =>
    match cutLine buffer with
    | (before, some after) => (.line (line ++ before), ⟨after, []⟩)
    | (before, none) => (.truncated (line ++ before), ⟨[], []⟩)
  | arrival :: rest =>
    match cutLine buffer with
    | (before, some after) => (.line (line ++ before), ⟨after, arrival :: rest⟩)
    | (before, none) =>
      match arrival with
      | .data bytes => readFrom (line ++ before) bytes rest
      | .fault f =>
        if f.isInterrupt then readFrom (line ++ before) [] rest else (.fault f, ⟨[], rest⟩)

/-- Reads a line. -/
def readLine (i : Incoming) : LineEnd × Incoming := readFrom [] i.buffer i.pending

/-- More data from the peer. -/
def push (i : Incoming) (a : Arrival) : Incoming := { i with pending := i.pending ++ [a] }

end Incoming

/-- A line without the carriage returns at its end. -/
def stripReturns (line : List UInt8) : List UInt8 :=
  (line.reverse.dropWhile (· = carriageReturn)).reverse

end SupervisorRpc
