import SupervisorRpc.Proofs.Client.Request
import SupervisorRpc.Proofs.Method.Name
import SupervisorRpc.Proofs.Program.Methods

/-! Names and what is sent for them.  Two calls with names in snake case that send the same line have the
same name and the same parameters.  A name and its PascalCase name always make the same call, however
the one or the other is called. -/

namespace SupervisorRpc

theorem Text.Scalar.unpaired {t : Text} (h : t.Scalar) : t.Unpaired := by
  induction t with
  | nil => exact List.isChain_nil
  | cons c t ih =>
    obtain ⟨hc, ht⟩ := h.of_cons
    refine List.isChain_cons.mpr ⟨fun d _ hpair => ?_, ih ht⟩
    rw [CodePoint.not_isHighSurrogate hc] at hpair
    exact absurd hpair.1 (by decide)

namespace Client

open Json

/-! ### Names apart -/

theorem unpaired_wireName {name : Text} (h : Method.Snake name) : (Method.wireName name).Unpaired := by
  apply Text.Scalar.unpaired
  apply Text.Scalar.of_isAscii
  have hnamespace : ∀ c ∈ Method.wireNamespace, c.isAscii = true := by decide
  intro c hc
  rcases List.mem_append.mp hc with hc | hc
  · exact hnamespace c hc
  · exact h.isAscii_pascalCase c hc

theorem wireName_injective {name name' : Text} (h : Method.Snake name) (h' : Method.Snake name')
    (heq : Method.wireName name = Method.wireName name') : name = name' := by
  have hpascal : Method.pascalCase name = Method.pascalCase name' := List.append_cancel_left heq
  rw [← Method.snakeCase_pascalCase h, hpascal, Method.snakeCase_pascalCase h']

variable {room room' : Nat} {name name' : Text} {values values' : List Json}

/-- A request is read back as its method and its parameters, so these can be told from it. -/
theorem encode_request_injective (h : Method.Snake name) (h' : Method.Snake name')
    (hvalues : Plain room (.array values)) (hvalues' : Plain room' (.array values'))
    (heq : encode compact (.object
        [("method", .string (Method.wireName name)), ("params", .array values)]) =
      encode compact (.object
        [("method", .string (Method.wireName name')), ("params", .array values')])) :
    name = name' ∧ values = values' := by
  -- Both can be read with room for the two together.
  have hplain := (plain_request (unpaired_wireName h) hvalues).mono
    (Nat.le_add_right (room + 1) (room' + 1))
  have hplain' := (plain_request (unpaired_wireName h') hvalues').mono
    (Nat.le_add_left (room' + 1) (room + 1))
  have hread := decode_encode compact_readable hplain
  rw [heq, decode_encode compact_readable hplain'] at hread
  simp only [Except.ok.injEq, object.injEq, List.cons.injEq, Prod.mk.injEq, string.injEq,
    array.injEq, true_and, and_true] at hread
  exact ⟨wireName_injective h h' hread.1.symm, hread.2.symm⟩

theorem requestLine_injective (h : Method.Snake name) (h' : Method.Snake name')
    (hvalues : Plain room (.array values)) (hvalues' : Plain room' (.array values'))
    (heq : requestLine room (Method.wireName name) (values.map .value) =
      requestLine room' (Method.wireName name') (values'.map .value)) :
    name = name' ∧ values = values' := by
  rw [requestLine_values _ (excess?_of_plain hvalues),
    requestLine_values _ (excess?_of_plain hvalues')] at heq
  exact encode_request_injective h h' hvalues hvalues' (Except.ok.inj heq)

/-- Calls about values that send the same line have the same request. -/
theorem encode_request_of_send {endpoint endpoint' : Endpoint} {world world' : World}
    {clock clock' : Clock} {line : Text}
    (hsend : .send line ∈ (call endpoint world clock name (values.map .value) ()).trace)
    (hsend' : .send line ∈ (call endpoint' world' clock' name' (values'.map .value) ()).trace) :
    encode compact (.object
        [("method", .string (Method.wireName name)), ("params", .array values)]) =
      encode compact (.object
        [("method", .string (Method.wireName name')), ("params", .array values')]) := by
  obtain ⟨request, hrequest, hline⟩ := inSpan_send (send_mem_call.mp hsend)
  obtain ⟨request', hrequest', hline'⟩ := inSpan_send (send_mem_call.mp hsend')
  rw [encode_of_requestLine hrequest, encode_of_requestLine hrequest',
    List.append_cancel_right (hline.symm.trans hline')]

/-- No two names in snake case collide.  Such a name is read back from its PascalCase name; calls by
such names with the same request, or that send the same line, have the same name and the same
parameters.  The methods that the actions of the command line stand for have such names, and so
have the known ones. -/
theorem names_distinct :
    (∀ name, Method.Snake name → Method.snakeCase (Method.pascalCase name) = name) ∧
    (∀ name name' values values' room room', Method.Snake name → Method.Snake name' →
      Plain room (.array values) → Plain room' (.array values') →
      (requestLine room (Method.wireName name) (values.map .value) =
          requestLine room' (Method.wireName name') (values'.map .value) →
        name = name' ∧ values = values') ∧
      ∀ endpoint endpoint' world world' clock clock' line,
        .send line ∈ (call endpoint world clock name (values.map .value) ()).trace →
        .send line ∈ (call endpoint' world' clock' name' (values'.map .value) ()).trace →
        name = name' ∧ values = values') ∧
    (∀ action ∈ CommandLine.actions, ∀ target group method params,
      Method.ofAction action target group = .ok (method, params) → Method.Snake method) ∧
    ∀ name arity, Method.arity? name = some arity → Method.Snake name := by
  refine ⟨fun name => Method.snakeCase_pascalCase, ?_, ?_, fun name arity => Method.snake_of_arity?⟩
  · intro name name' values values' room room' h h' hvalues hvalues'
    refine ⟨requestLine_injective h h' hvalues hvalues', ?_⟩
    intro endpoint endpoint' world world' clock clock' line hsend hsend'
    exact encode_request_injective h h' hvalues hvalues' (encode_request_of_send hsend hsend')
  · intro action haction target group method params hmethod
    exact Method.snake_of_arity? (Method.arity?_ofAction haction hmethod)

/-- The request to stop a group is sent in the same way over TCP and over a socket in the file system, and
no request to stop a process is that one. -/
theorem names_distinct_stop :
    let world : World := ⟨none, none, [], none, none, 984⟩
    let web : List Json := [.string "web"]
    let tcp : Endpoint := ⟨"tcp://h:1", .tcp "h" 1⟩
    let unix : Endpoint := ⟨"/s", .unix "/s"⟩
    let overTcp := call tcp world [] "stop_group" (web.map .value) ()
    let overUnix := call unix world [] "stop_group" (web.map .value) ()
    let process := call unix world [] "stop_process" (web.map .value) ()
    Method.snakeCase (Method.pascalCase "stop_group") = "stop_group" ∧
      (∃ line, .send line ∈ overTcp.trace ∧ .send line ∈ overUnix.trace) ∧
      ∀ line, .send line ∈ overTcp.trace → .send line ∉ process.trace := by
  intro world web tcp unix overTcp overUnix process
  obtain ⟨hread, hdistinct, hactions, hknown⟩ := names_distinct
  have hgroup : Method.Snake "stop_group" :=
    hactions "stop" (by decide) (some "web") true "stop_group" ["web"] rfl
  have hprocess : Method.Snake "stop_process" := hknown "stop_process" 1 rfl
  have hweb : Plain 1 (.array web) :=
    .array (List.forall_mem_singleton.mpr (.string (by decide)))
  have hfits := excess?_of_plain (hweb.mono (Nat.le_add_left 1 983))
  obtain ⟨line, hsends⟩ : ∃ line, ∀ endpoint,
      .send line ∈ (call endpoint world [] "stop_group" (web.map .value) ()).trace :=
    ⟨_, fun _ => send_mem_call.mpr (inSpan_sends (requestLine_values _ hfits) rfl rfl)⟩
  refine ⟨hread "stop_group" hgroup, ⟨line, hsends tcp, hsends unix⟩, fun line hsend hsend' => ?_⟩
  have hsame := (hdistinct _ _ _ _ _ _ hgroup hprocess hweb hweb).2 _ _ _ _ _ _ _ hsend hsend'
  exact absurd hsame.1 (by decide)

/-! ### Spellings of a name -/

/-- The PascalCase name of a method is an attribute of the client that takes any parameters. -/
theorem attribute_pascalCase (name : Text) : Attribute (Method.pascalCase name) where
  visible h := Method.underscore_notMem_pascalCase name (List.mem_of_mem_head? h)
  ne_call := Method.pascalCase_ne (by decide +kernel) name
  ne_endpoint := Method.pascalCase_ne (by decide +kernel) name

theorem wireName_pascalCase (name : Text) :
    Method.wireName (Method.pascalCase name) = Method.wireName name := by
  rw [Method.wireName, Method.pascalCase_pascalCase, Method.wireName]

/-- What PascalCase makes of names, whatever code points they have.  It works on each part of a name,
leaves no underscore, and keeps what is in PascalCase already; so a name and its PascalCase name make
the same call, the latter as an attribute of the client too. -/
theorem names_normalized (endpoint : Endpoint) (world : World) (clock : Clock) :
    (∀ a b, Method.pascalCase (a ++ point '_' :: b) =
      Method.pascalCase a ++ Method.pascalCase b) ∧
    (∀ name, point '_' ∉ Method.pascalCase name) ∧
    (∀ name, Method.pascalCase (Method.pascalCase name) = Method.pascalCase name) ∧
    ∀ name params,
      call endpoint world clock (Method.pascalCase name) params =
        call endpoint world clock name params ∧
      dispatch endpoint world clock (Method.pascalCase name) params =
        call endpoint world clock name params := by
  refine ⟨Method.pascalCase_append, Method.underscore_notMem_pascalCase,
    Method.pascalCase_pascalCase, fun name params => ?_⟩
  have hcall : call endpoint world clock (Method.pascalCase name) params =
      call endpoint world clock name params := by
    rw [call, wireName_pascalCase, call]
  refine ⟨hcall, ?_⟩
  rw [dispatch_attribute endpoint world clock (attribute_pascalCase name),
    Method.arity?_pascalCase]
  exact hcall

end Client

end SupervisorRpc
