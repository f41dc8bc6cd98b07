import SupervisorRpc.Proofs.Client.Closing
import SupervisorRpc.Proofs.Connection.Receiving
import SupervisorRpc.Proofs.Json.Places
import SupervisorRpc.Proofs.Text.Decoding

/-! What a call says about a response line that is no JSON.  No line that a call receives has a newline in
it, so the place of the complaint is in the first line, and it is a place in the response or right behind
it. -/

namespace SupervisorRpc

namespace Json

theorem place_of_notMem {t : Text} (h : point '\n' ∉ t) {k : Nat} (hk : k ≤ t.length) :
    place t k = text "line 1 column " ++ Text.ofNat (k + 1) ++ text " (char " ++ Text.ofNat k ++
      text ")" := by
  have hbefore : point '\n' ∉ t.take k := fun hmem => h (List.mem_of_mem_take hmem)
  have hline : (t.take k).count (point '\n') = 0 := List.count_eq_zero.mpr hbefore
  have hcolumn : ((t.take k).reverse.takeWhile (· ≠ point '\n')).length = k := by
    rw [List.takeWhile_eq_self_iff.mpr, List.length_reverse, List.length_take_of_le hk]
    intro c hc
    exact decide_eq_true fun heq => hbefore (heq ▸ List.mem_reverse.mp hc)
  simp only [place, hline, hcolumn]
  rfl

/-- A flaw that is no matter of limits stands at a place in the text or at its end. -/
theorem message_of_decode {t : Text} {limit : Nat} (hnewline : point '\n' ∉ t) {flaw : Flaw}
    (h : decode t limit = .error flaw) (hdigits : ∀ count, flaw ≠ .digits count)
    (hdepth : ∀ nesting, flaw ≠ .depth nesting) :
    ∃ (complaint : Complaint) (k : Nat), k ≤ t.length ∧ complaint.Stands (t.drop k) ∧
      flaw.message t = complaint.text ++ text ": line 1 column " ++ Text.ofNat (k + 1) ++
        text " (char " ++ Text.ofNat k ++ text ")" := by
  cases flaw with
  | digits count => exact absurd rfl (hdigits count)
  | depth nesting => exact absurd rfl (hdepth nesting)
  | misplaced complaint remaining =>
    have hk : t.length - remaining ≤ t.length := Nat.sub_le _ _
    have hjoined : ∀ rest, text ": " ++ (text "line 1 column " ++ rest) =
        text ": line 1 column " ++ rest := fun _ => rfl
    refine ⟨complaint, t.length - remaining, hk, (stands_of_decode h).2, ?_⟩
    simp only [Flaw.message, place_of_notMem hnewline hk, List.append_assoc, hjoined]

end Json

theorem Utf8.newline_notMem_of_decode {bytes : List UInt8} {t : Text} (h : decode bytes = .ok t)
    (hline : newline ∉ bytes) : point '\n' ∉ t := fun hmem =>
  hline ((eq_encode_of_decode h).1 ▸ newline_mem_encode hmem)

namespace Client

variable {world : World} {params : List Param} {line : List UInt8} {t : Text}

theorem received_eq_ok (h : received world params = .ok line) :
    ∃ bytes, (Incoming.readItems [] world.items).1 = .line bytes ∧ stripReturns bytes = line := by
  rcases received_cases world params with ⟨f, -, hended⟩ | ⟨e, -, hended⟩ | ⟨f, -, hended⟩ | hended
  · cases h.symm.trans hended
  · cases h.symm.trans hended
  · cases h.symm.trans hended
  · have hanswer := hended.symm.trans h
    cases hread : (Incoming.readItems [] world.items).1 with
    | line bytes =>
      rw [hread] at hanswer
      exact ⟨bytes, rfl, Except.ok.inj hanswer⟩
    | truncated bytes | fault f =>
      rw [hread] at hanswer
      cases hanswer

/-- Neither the newline that ends a line nor any other reaches the call. -/
theorem newline_notMem_of_received (h : received world params = .ok line) : newline ∉ line := by
  obtain ⟨bytes, hread, rfl⟩ := received_eq_ok h
  have hbytes : newline ∉ bytes := Incoming.newline_notMem_of_readItems (by simp) hread
  obtain ⟨n, hstripped⟩ := (stripReturns_spec bytes).1
  rw [hstripped] at hbytes
  exact fun hmem => hbytes (List.mem_append_left _ hmem)

theorem call_of_unreadable (endpoint : Endpoint) (clock : SystemClock) (name : Text)
    {flaw : Json.Flaw} (hline : received world params = .ok line) (ht : Utf8.decode line = .ok t)
    (hflaw : Json.decode t world.limit = .error flaw) (hdepth : ∀ nesting, flaw ≠ .depth nesting) :
    (call endpoint world clock name params ()).result = (endpoint.closingFault? world).elim
      (.error (.rpc (.unreadable t (.json flaw)))) (.error <| .fault ·) := by
  have hdecode : Response.decode world.limit line = .error (.json flaw) := by
    simp only [Response.decode, ht, hflaw]
  have hcause : ∀ nesting, Unreadable.json flaw ≠ .json (.depth nesting) := fun nesting h =>
    hdepth nesting (Unreadable.json.inj h)
  cases hclose : endpoint.closingFault? world with
  | some f => exact call_of_closingFault hclose clock name params
  | none =>
    have hclosable : received world.closable params = .ok line := hline
    rw [call_of_closable hclose, concluded, hclosable]
    show (Response.read world.limit _ line ()).result = _
    rw [Response.read_unreadable hdecode hcause, Utf8.decodeReplacing_of_decode ht]
    rfl

/-- A call that receives a line of UTF-8 that is no JSON, though not for the number of its digits or for
its nesting, fails with an error that shows the line and names a place in it: in the first line, from its
front to its end, where what is complained of stands.  Only a fault of closing may keep the call from
ending in that error. -/
theorem call_diagnosis (endpoint : Endpoint) (clock : SystemClock) (name : Text) {flaw : Json.Flaw}
    (hline : received world params = .ok line) (ht : Utf8.decode line = .ok t)
    (hflaw : Json.decode t world.limit = .error flaw) (hdigits : ∀ count, flaw ≠ .digits count)
    (hdepth : ∀ nesting, flaw ≠ .depth nesting) :
    let outcome := call endpoint world clock name params ()
    point '\n' ∉ t ∧
    ∃ (e : RpcError) (complaint : Json.Complaint) (k : Nat),
      k ≤ t.length ∧ complaint.Stands (t.drop k) ∧
      e.message = text "parsing response \x60" ++ t ++ text "': " ++ complaint.text ++
        text ": line 1 column " ++ Text.ofNat (k + 1) ++ text " (char " ++ Text.ofNat k ++
        text ")" ∧
      (∀ e', outcome.result = .error (.rpc e') → e' = e) ∧
      outcome.result = (endpoint.closingFault? world).elim (.error (.rpc e))
        (.error <| .fault ·) := by
  intro outcome
  have hnewline := Utf8.newline_notMem_of_decode ht (newline_notMem_of_received hline)
  obtain ⟨complaint, k, hk, hstands, hmessage⟩ :=
    Json.message_of_decode hnewline hflaw hdigits hdepth
  have hended := call_of_unreadable endpoint clock name hline ht hflaw hdepth
  refine ⟨hnewline, _, complaint, k, hk, hstands, ?_, ?_, hended⟩
  · rw [RpcError.message, Unreadable.message, hmessage]
    simp only [List.append_assoc]
  · intro e' he'
    rw [hended] at he'
    cases hclose : endpoint.closingFault? world with
    | some f =>
      rw [hclose] at he'
      cases he'
    | none =>
      rw [hclose] at he'
      cases he'
      rfl

/-- The line ends where the value of a member is expected, and so right behind its last code point. -/
theorem call_diagnosis_truncated :
    let chunks : List Arrival := [.data [0x7B, 0x22, 0x61], .data [0x22, 0x3A, 0x0D, 0x0A, 0x31]]
    let world : World := ⟨none, none, chunks, none, none, 984⟩
    let clock : SystemClock := [0.25, 0.5]
    ∃ (e : RpcError) (complaint : Json.Complaint) (k : Nat), k ≤ 5 ∧
      complaint.Stands ((text "\x7b\"a\":").drop k) ∧
      (call ⟨"tcp://h:1", .tcp "h" 1⟩ world clock "status" [] ()).result = .error (.rpc e) ∧
      e.message = "parsing response \x60\x7b\"a\":': Expecting value: line 1 column 6 (char 5)" := by
  intro chunks world clock
  have hline : received world [] = .ok [0x7B, 0x22, 0x61, 0x22, 0x3A] := rfl
  have ht : Utf8.decode [0x7B, 0x22, 0x61, 0x22, 0x3A] = .ok (text "\x7b\"a\":") := rfl
  have hflaw : Json.decode (text "\x7b\"a\":") world.limit = .error (.misplaced .value 0) := rfl
  obtain ⟨-, e, complaint, k, hk, hstands, -, honly, hended⟩ :=
    call_diagnosis ⟨"tcp://h:1", .tcp "h" 1⟩ clock "status" hline ht hflaw (by simp) (by simp)
  refine ⟨e, complaint, k, hk, hstands, hended, ?_⟩
  rw [← honly (.unreadable (text "\x7b\"a\":") (.json (.misplaced .value 0))) rfl]
  decide +kernel

end Client

end SupervisorRpc
