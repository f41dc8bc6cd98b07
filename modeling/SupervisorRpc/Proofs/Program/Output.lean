import SupervisorRpc.Proofs.Json.Indenting
import SupervisorRpc.Proofs.Program.Answers
import SupervisorRpc.Proofs.Report

/-! What the program prints.  The result of a call is printed indented, and reading the output as
responses are read gives the daemon's result back. -/

namespace SupervisorRpc

namespace Response

/-- A plain value that is printed with a line end, or without, is read back from the bytes. -/
theorem decode_indented {limit : Nat} {v : Json} (h : Json.Plain limit v) {ending : Text}
    (hblanks : Json.Blanks ending) (hlined : Json.Lined ending) :
    decode limit (Utf8.encode (Json.indented v ++ ending)) = .ok v := by
  have hshown : Json.Lined (Json.indented v ++ ending) :=
    Json.lined_append_iff.mpr ⟨Json.lined_indentedAt 0 v, hlined⟩
  exact decode_encode (Text.Scalar.of_isAscii hshown.isAscii) (Json.decode_indented h hblanks)

end Response

namespace Client

/-- A call about texts that returns has received a response, and returns its result. -/
theorem call_returned {endpoint : Endpoint} {world : World} {clock : SystemClock} {name : Text}
    {texts : List Text} {value : Json}
    (h : (call endpoint world clock name (texts.map fun t => .value (.string t)) ()).result =
      .ok value) :
    ∃ line members, received world [] = .ok line ∧
      Response.decode world.limit line = .ok (.object members) ∧
        value = Response.resultOf members := by
  cases hclosing : endpoint.closingFault? world with
  | some f =>
    rw [call_of_closingFault hclosing] at h
    cases h
  | none =>
    rw [call_texts hclosing] at h
    cases hreceived : received world [] with
    | error e =>
      rw [hreceived] at h
      cases h
    | ok line =>
      obtain ⟨ended, trace, hreading, hrun⟩ :=
        Response.reading_run world.limit (Method.wireName name) line
      rw [hreceived] at h
      have hended : (Response.read world.limit (Method.wireName name) line ()).result = .ok value := h
      rw [hrun Unit ()] at hended
      obtain rfl : ended = .ok value := hended
      cases hreading with
      | @accepted members hdecode _ => exact ⟨line, members, rfl, hdecode, rfl⟩

end Client

namespace Program

variable {env : Environment} {args : List Text} {job : Job} {world : World} {clock : SystemClock}
  {value : Json}

theorem Job.run_returned (h : (job.act world clock ()).result = .ok value) :
    (job.run world clock).ending = .ok 0 ∧
      (job.run world clock).out = Json.indented value ++ [point '\n'] := by
  rw [run, h]
  exact ⟨rfl, rfl⟩

/-- Where the call returns a result with no floating-point number in it, the program prints ASCII text
with one line end at its end, which is read as the result that the daemon gave.  No limit keeps the
result from being printed.  Printing and reading are inverse on every value that can be read. -/
theorem run_output (hplan : plan env args = .call job)
    (hreturned : (job.act world clock ()).result = .ok value) (hintegral : value.Integral) :
    let r := run env world args clock
    r.ending = .ok 0 ∧
      (∃ line members, Client.received world [] = .ok line ∧
        Response.decode world.limit line = .ok (.object members) ∧
          value = Response.resultOf members) ∧
      value.excess? world.room = none ∧
      (∀ c ∈ r.out, c.isAscii = true) ∧
      (∃ shown, r.out = shown ++ [point '\n'] ∧ shown.getLast? ≠ some (point '\n')) ∧
      Json.decode r.out world.limit = .ok value ∧
      Response.decode world.limit (Utf8.encode r.out) = .ok value ∧
      ∀ limit raw v, Response.decode limit raw = .ok v → v.Integral →
        Response.decode limit (Utf8.encode (Json.indented v)) = .ok v := by
  intro r
  have hr : r = job.run world clock := run_of_plan hplan world clock
  obtain ⟨hending, hout⟩ := Job.run_returned hreturned
  obtain ⟨line, members, hreceived, hdecode, hvalue⟩ := Client.call_returned hreturned
  have hplain : Json.Plain world.limit value := by
    rw [hvalue] at hintegral ⊢
    exact Response.plain_get? hdecode hintegral
  have hwritable : value.excess? world.room = none := by
    rw [hvalue]
    exact Response.excess?_get? hdecode "result"
  have hblanks : Json.Blanks [point '\n'] := by simp [Json.Blanks]
  have hlined : Json.Lined [point '\n'] := by decide
  rw [hr, hout]
  refine ⟨hending, ⟨line, members, hreceived, hdecode, hvalue⟩, hwritable, ?_, ?_, ?_, ?_, ?_⟩
  · exact (Json.lined_append_iff.mpr ⟨Json.lined_indentedAt 0 value, hlined⟩).isAscii
  · exact ⟨_, rfl, Json.getLast?_indentedAt 0 value⟩
  · exact Json.decode_indented hplain hblanks
  · exact Response.decode_indented hplain hblanks hlined
  · intro limit raw v hraw hv
    have hv := (Response.decoded_of_decode hraw).plain hv
    have hread := Response.decode_indented hv Json.blanks_nil Json.lined_nil
    rwa [List.append_nil] at hread

/-- Empty lists and objects inside others, half of a surrogate pair and a negative integer. -/
theorem run_output_nested :
    let env : Environment := ⟨"/home/gonit", none, none, none, none, none⟩
    let args : List Text := ["--rpc-url", "tcp://h:1", "about"]
    let line := Utf8.encode
      (text "\x7b\"result\":\x7b\"b\":[[],\x7b\x7d],\"a\":\"\\ud800\",\"c\":-12\x7d\x7d")
    let world : World :=
      ⟨none, none, [.data (line.take 20), .data (line.drop 20 ++ [newline])], none, none, 984⟩
    let value : Json := .object [("b", .array [.array [], .object []]),
      ("a", .string [CodePoint.ofNat 0xD800]), ("c", .number (.int (-12)))]
    let clock : SystemClock := [3.25, 3.5]
    let r := run env world args clock
    r.ending = .ok 0 ∧ Json.decode r.out world.limit = .ok value ∧
      r.out = text ("\x7b\n  \"b\": [\n    [],\n    \x7b\x7d\n  ],\n  \"a\": \"\\ud800\",\n" ++
        "  \"c\": -12\n\x7d\n") := by
  intro env args line world value clock r
  let job : Job := ⟨⟨"tcp://h:1", .tcp "h" 1⟩, "about", [], "gonit-api", none, 30⟩
  have hplan : plan env args = .call job := rfl
  have hdelivers : world.Delivers (line ++ [newline]) := ⟨rfl, rfl, rfl, rfl, [], by decide⟩
  have hreceived := Client.received_of_delivers (Utf8.newline_notMem_encode (by decide)) hdelivers
    (List.forall_mem_nil _)
  have hstripped : stripReturns line = line := by decide
  have hread : (Response.read world.limit (Method.wireName "about") line ()).result = .ok value := by
    rfl
  have hclosing : job.endpoint.closingFault? world = none := rfl
  have hcall := Client.call_texts hclosing clock job.method []
  have hreturned : (job.act world clock ()).result = .ok value := by
    rw [hreceived, hstripped] at hcall
    exact hcall.trans hread
  have hintegral : value.Integral := by
    refine .object fun m hm => ?_
    simp only [List.mem_cons, List.not_mem_nil, or_false] at hm
    rcases hm with rfl | rfl | rfl
    · refine .array fun v hv => ?_
      simp only [List.mem_cons, List.not_mem_nil, or_false] at hv
      rcases hv with rfl | rfl
      · exact .array nofun
      · exact .object nofun
    · exact .string _
    · exact .integer _
  obtain ⟨hending, -, -, -, -, hdecode, -⟩ := run_output hplan hreturned hintegral
  have hout : r.out = Json.indented value ++ [point '\n'] := (Job.run_returned hreturned).2
  refine ⟨hending, hdecode, ?_⟩
  rw [hout]
  decide +kernel

end Program

end SupervisorRpc
