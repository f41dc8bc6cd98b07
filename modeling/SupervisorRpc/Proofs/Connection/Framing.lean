import SupervisorRpc.Proofs.Connection.Receiving
import SupervisorRpc.Proofs.Text.Encoding
import SupervisorRpc.Proofs.Text.Printable

/-! Framing.  Lines that are written to one connection come out of another one by one, however the bytes
between the two are cut into chunks: none is lost, merged, split or altered. -/

namespace SupervisorRpc

/-- A text that survives framing: it has an encoding, is one line, and does not end in a carriage
return, which would be taken off with the newline. -/
structure Text.Framable (line : Text) : Prop where
  plain : ∀ c ∈ line, c.isSurrogate = false
  oneLine : point '\n' ∉ line
  unreturned : line.getLast? ≠ some (point '\r')

theorem Text.Framable.stripReturns {line : Text} (h : line.Framable) :
    stripReturns (Utf8.encode line) = Utf8.encode line := by
  rcases List.eq_nil_or_concat line with rfl | ⟨before, c, rfl⟩
  · rfl
  · have hc : c ≠ point '\r' := by
      rintro rfl
      exact h.unreturned (by simp)
    rw [List.concat_eq_append]
    exact stripReturns_encode_append hc before

/-- The bytes that go out with an activity. -/
def Activity.sentBytes : Activity → List UInt8
  | .send line => Utf8.encode line
  | _ => []

namespace Connection

/-- The bytes that go out in the course of a script. -/
def sentBytes (outcomes : List (Outcome Connection Reply)) : List UInt8 :=
  outcomes.flatMap fun outcome => outcome.trace.flatMap Activity.sentBytes

variable {c : Connection}

/-! ### Writing -/

theorem runStep_writeLine (hopen : c.closed = false) (hfault : c.sendFault = none) {line : Text}
    (hline : ∀ p ∈ line, p.isSurrogate = false) :
    runStep (.writeLine line) c = ⟨.ok .done, c, [.send (line ++ [point '\n'])]⟩ := by
  rw [runStep, Act.bind_run_ok (writeLine_run hopen (Utf8.surrogateRun?_eq_none hline) hfault)]
  rfl

theorem runScript_writeLines (hopen : c.closed = false) (hfault : c.sendFault = none)
    {lines : List Text} (hlines : ∀ line ∈ lines, line.Framable) :
    runScript c (lines.map .writeLine) =
      lines.map fun line => ⟨.ok .done, c, [.send (line ++ [point '\n'])]⟩ := by
  induction lines with
  | nil => rfl
  | cons line lines ih =>
    obtain ⟨hline, hrest⟩ := List.forall_mem_cons.mp hlines
    rw [List.map_cons, runScript, runStep_writeLine hopen hfault hline.plain, List.map_cons]
    exact congrArg _ (ih hrest)

theorem sentBytes_writeLines (hopen : c.closed = false) (hfault : c.sendFault = none)
    {lines : List Text} (hlines : ∀ line ∈ lines, line.Framable) :
    sentBytes (runScript c (lines.map .writeLine)) =
      (lines.map Utf8.encode).flatMap (· ++ [newline]) := by
  have hline : ∀ line : Text, Utf8.encode (line ++ [point '\n']) = Utf8.encode line ++ [newline] := by
    intro line
    rw [Utf8.encode_append, Utf8.encode_singleton (by decide)]
    rfl
  rw [runScript_writeLines hopen hfault hlines, sentBytes, List.flatMap_map, List.flatMap_map]
  simp [Activity.sentBytes, hline]

/-! ### Reading -/

/-- Reading steps alone read item by item. -/
theorem runScript_readLines (hopen : c.closed = false) (n : Nat) :
    (runScript c (List.replicate n .readLine)).map (·.result) =
      receiveItems c.incoming.items (List.replicate n none) := by
  induction n generalizing c with
  | zero => rfl
  | succ n ih =>
    obtain ⟨hended, hitems⟩ := Incoming.readLine_eq_readItems c.incoming
    have hrest := ih (c := { c with incoming := c.incoming.readLine.2 }) hopen
    rw [List.replicate_succ, runScript, runStep_readLine hopen, List.map_cons, hrest, hended, hitems]
    rfl

/-- Lines with a newline after each are received one by one, and then the data end. -/
theorem receiveItems_lines {lines : List (List UInt8)} (h : ∀ line ∈ lines, newline ∉ line) :
    receiveItems ((lines.flatMap (· ++ [newline])).map .byte)
        (List.replicate (lines.length + 1) none) =
      lines.map (fun line => .ok (.line (stripReturns line))) ++ [.error (.truncated 0)] := by
  induction lines with
  | nil => rfl
  | cons line lines ih =>
    obtain ⟨hline, hrest⟩ := List.forall_mem_cons.mp h
    have hitems : ((line :: lines).flatMap (· ++ [newline])).map Item.byte =
        line.map .byte ++ .byte newline :: (lines.flatMap (· ++ [newline])).map .byte := by
      simp
    rw [hitems, List.length_cons, List.replicate_succ, receiveItems,
      Incoming.readItems_line hline, ih hrest]
    rfl

/-! ### Round trip -/

/-- Framable lines that are written to an open connection without a fault of sending all go out, and
whoever receives these bytes, in any chunks, gets the encodings of the lines in order, and then the
end of the data at zero bytes. -/
theorem script_framing {lines : List Text} (hlines : ∀ line ∈ lines, line.Framable)
    {sender receiver : Connection} (hsender : sender.closed = false)
    (hfault : sender.sendFault = none) (hreceiver : receiver.closed = false)
    {chunks : List (List UInt8)} (hincoming : receiver.incoming = ⟨[], chunks.map .data⟩)
    (hchunks : chunks.flatten = sentBytes (runScript sender (lines.map .writeLine))) :
    (runScript sender (lines.map .writeLine)).map (·.result) = lines.map (fun _ => .ok .done) ∧
      (runScript receiver (List.replicate (lines.length + 1) .readLine)).map (·.result) =
        lines.map (fun line => .ok (.line (Utf8.encode line))) ++ [.error (.truncated 0)] ∧
      (Failure.truncated 0).errorClass = .connection ∧
      (Failure.truncated 0).message =
        text "connection closed after 0 bytes, expected a newline-terminated response" := by
  refine ⟨?_, ?_, rfl, rfl⟩
  · rw [runScript_writeLines hsender hfault hlines, List.map_map]
    rfl
  · have hitems : receiver.incoming.items =
        ((lines.map Utf8.encode).flatMap (· ++ [newline])).map .byte := by
      rw [← sentBytes_writeLines hsender hfault hlines, ← hchunks, hincoming, Incoming.items,
        List.flatMap_map, List.map_flatten, List.flatMap_def]
      rfl
    have hnewline : ∀ line ∈ lines.map Utf8.encode, newline ∉ line := by
      intro line hline
      obtain ⟨t, ht, rfl⟩ := List.mem_map.mp hline
      exact Utf8.newline_notMem_encode (hlines t ht).oneLine
    have hstripped : ∀ line ∈ lines, stripReturns (Utf8.encode line) = Utf8.encode line :=
      fun line hline => (hlines line hline).stripReturns
    have hreceived := receiveItems_lines hnewline
    rw [List.length_map, List.map_map] at hreceived
    rw [runScript_readLines hreceiver, hitems, hreceived]
    congr 1
    apply List.map_congr_left
    intro line hline
    rw [Function.comp_apply, hstripped line hline]

/-- A carriage return within a line, an empty line, and a cut within a code point. -/
theorem script_framing_cut :
    let lines : List Text := ["a\rb", "", "\u00e9"]
    let sender : Connection := ⟨⟨[], []⟩, none, none, none, false⟩
    let receiver : Connection :=
      ⟨⟨[], [.data [0x61, 0x0D], .data [0x62, 0x0A, 0x0A, 0xC3], .data [], .data [0xA9, 0x0A]]⟩,
        none, none, none, false⟩
    (runScript sender (lines.map .writeLine)).map (·.result) = [.ok .done, .ok .done, .ok .done] ∧
      (runScript receiver [.readLine, .readLine, .readLine, .readLine]).map (·.result) =
        [.ok (.line [0x61, 0x0D, 0x62]), .ok (.line []), .ok (.line [0xC3, 0xA9]),
          .error (.truncated 0)] := by
  intro lines sender receiver
  have hlines : ∀ line ∈ lines, line.Framable := by
    intro line hline
    simp only [lines, List.mem_cons, List.not_mem_nil, or_false] at hline
    rcases hline with rfl | rfl | rfl <;> exact ⟨by decide, by decide, by decide⟩
  have hopen : sender.closed = false := rfl
  have hcut : [[0x61, 0x0D], [0x62, 0x0A, 0x0A, 0xC3], [], [0xA9, 0x0A]].flatten =
      sentBytes (runScript sender (lines.map .writeLine)) := by
    rw [sentBytes_writeLines hopen rfl hlines]
    rfl
  have hincoming : receiver.incoming =
      ⟨[], [[0x61, 0x0D], [0x62, 0x0A, 0x0A, 0xC3], [], [0xA9, 0x0A]].map .data⟩ := rfl
  obtain ⟨hwritten, hread, -⟩ := script_framing hlines hopen rfl rfl hincoming hcut
  exact ⟨hwritten, hread⟩

end Connection

end SupervisorRpc
