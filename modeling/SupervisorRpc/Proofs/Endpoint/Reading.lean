import SupervisorRpc.Proofs.Dial
import SupervisorRpc.Proofs.Url.Authority

/-! Endpoints as they are read from URLs.  `Endpoint.Reads` says what address a URL has if it has one.
The main statement says of every text, and of the text that stands in for no URL, that reading it
gives a well-formed endpoint, which is dialed at its address over the kind of socket that its scheme
names, or else fails with a value error. -/

namespace SupervisorRpc

/-- A connection is asked for: the socket of a path comes into being, or an address is dialed. -/
def Activity.isDialing : Activity → Bool
  | .dialTcp _ _ | .openUnix | .dialUnix _ => true
  | _ => false

namespace Endpoint

variable {url authority written host : Text} {port : Nat} {address : Address}

theorem tcpScheme_ne_nil : tcpScheme ≠ [] := by decide

theorem readPort_eq_ok_iff : readPort written = .ok port ↔
    (written.isAsciiNumber = true ∧ written.length ≤ EndpointError.digitLimit ∧
      Text.digitsValue written ≤ 65535) ∧ port = Text.digitsValue written := by
  rw [readPort]
  cases hnumber : written.isAsciiNumber with
  | false => simp
  | true =>
    by_cases hlength : EndpointError.digitLimit < written.length
    · simp [hlength, Nat.not_le.mpr hlength]
    · by_cases hrange : Text.digitsValue written ≤ 65535
      · simp [hlength, hrange, Nat.not_lt.mp hlength, eq_comm]
      · simp [hlength, hrange]

/-- A host and a port give an address if there is a host, and a port that can be read. -/
theorem tcpAddress_eq_ok_iff {ending : Option Text}
    (h : Url.hostPort authority = (host, ending)) : tcpAddress url authority = .ok address ↔
      ∃ written port, ending = some written ∧ readPort written = .ok port ∧ host ≠ [] ∧
        address = .tcp (Url.lowerHost host) port := by
  rw [tcpAddress, h]
  cases ending with
  | none => simp [pure, Except.pure]
  | some written =>
    cases hport : readPort written with
    | error e => simp [hport, Functor.map, Except.map]
    | ok port =>
      by_cases hhost : host = []
      · simp [hport, hhost, Functor.map, Except.map]
      · simp [hport, hhost, Functor.map, Except.map, eq_comm]

theorem addressOf_of_refused {e : Url.Error}
    (h : Url.checkAuthority (Url.partsOf url).authority = .error e) :
    addressOf url = .error (.url e) := by
  rw [addressOf, Url.split_eq, h]
  rfl

/-- The path that a URL names: a text without a scheme is a path as it stands. -/
def namedPath (url : Text) : Text :=
  if (Url.partsOf url).scheme = [] then url else (Url.partsOf url).path

theorem addressOf_of_accepted (h : Url.checkAuthority (Url.partsOf url).authority = .ok ()) :
    addressOf url =
      if (Url.partsOf url).scheme = tcpScheme then tcpAddress url (Url.partsOf url).authority
      else if namedPath url = [] then .error (.incomplete url)
      else .ok (.unix (namedPath url)) := by
  rw [addressOf, Url.split_eq, h]
  rfl

/-- The address that a URL has, by its parts. -/
inductive Reads (url : Text) : Address → Prop
  | tcp {host written : Text} {port : Nat} (scheme : (Url.partsOf url).scheme = tcpScheme)
      (ending : Url.hostPort (Url.partsOf url).authority = (host, some written))
      (number : readPort written = .ok port) (named : host ≠ []) :
      Reads url (.tcp (Url.lowerHost host) port)
  | unix (scheme : (Url.partsOf url).scheme ≠ tcpScheme) (named : namedPath url ≠ []) :
      Reads url (.unix (namedPath url))

theorem reads_of_addressOf (h : addressOf url = .ok address) :
    Url.checkAuthority (Url.partsOf url).authority = .ok () ∧ Reads url address := by
  cases hcheck : Url.checkAuthority (Url.partsOf url).authority with
  | error e =>
    rw [addressOf_of_refused hcheck] at h
    cases h
  | ok _ =>
    refine ⟨rfl, ?_⟩
    rw [addressOf_of_accepted hcheck] at h
    split_ifs at h with hscheme hpath
    · obtain ⟨written, port, hending, hport, hhost, rfl⟩ := (tcpAddress_eq_ok_iff rfl).mp h
      exact .tcp hscheme (Prod.ext rfl hending) hport hhost
    · obtain rfl := Except.ok.inj h
      exact .unix hscheme hpath

theorem parse_eq_ok_iff {home : Text} {url : Option Text} {e : Endpoint} :
    parse home url = .ok e ↔
      e.url = url.getD (defaultSocketPath home) ∧
        addressOf (url.getD (defaultSocketPath home)) = .ok e.address := by
  obtain ⟨url', address⟩ := e
  rw [parse]
  cases addressOf (url.getD (defaultSocketPath home)) with
  | error e => simp [Except.map]
  | ok address' => simp [Except.map, eq_comm]

/-- A host that can be dialed: no delimiter of a URL is in it, and no capital of ASCII before its zone. -/
structure IsHost (host : Text) : Prop where
  ne_nil : host ≠ []
  undelimited : ∀ c ∈ text "/?#@\t\n\r", c ∉ host
  small : ∀ c ∈ Url.hostName host, c.isAsciiUpper = false

theorem isHost_lowerHost (hhost : (Url.hostPort (Url.partsOf url).authority).1 = host)
    (hne : host ≠ []) : IsHost (Url.lowerHost host) where
  ne_nil := Url.lowerHost_ne_nil hne
  undelimited := by
    have hascii : ∀ c ∈ text "/?#@\t\n\r", c.isAscii = true ∧ c.isAsciiLower = false ∧
        (Url.endsAuthority c = true ∨ Url.isIgnored c = true ∨ c = point '@') := by decide
    intro c hc hmem
    obtain ⟨hc, hsmall, hdelimiter⟩ := hascii c hc
    -- Lower case brings letters only: a delimiter in the host would have stood in the authority.
    have hhost' := Url.mem_of_mem_lowerHost hc hsmall hmem
    rw [← hhost] at hhost'
    obtain ⟨hauthority, hat⟩ := Url.mem_hostPort hhost'
    obtain ⟨hends, hignored⟩ := Url.mem_authority hauthority
    rcases hdelimiter with h | h | h
    · rw [hends] at h
      cases h
    · rw [hignored] at h
      cases h
    · exact hat h
  small := fun _ => Url.not_isAsciiUpper_of_lowerHost

/-- The parts of an endpoint fit its scheme. -/
def WellFormed (r : EndpointRecord) : Prop :=
  (r.scheme = tcpScheme ∧ (∃ host ∈ r.host, IsHost host) ∧ (∃ port ∈ r.port, port ≤ 65535) ∧
      r.path = none) ∨
    (r.scheme = unixScheme ∧ (∃ path ∈ r.path, path ≠ []) ∧ r.host = none ∧ r.port = none)

theorem Reads.wellFormed (h : Reads url address) : WellFormed (record ⟨url, address⟩) := by
  cases h with
  | tcp scheme ending number named =>
    have hhost := isHost_lowerHost (congrArg Prod.fst ending) named
    obtain ⟨⟨-, -, hrange⟩, rfl⟩ := readPort_eq_ok_iff.mp number
    exact .inl ⟨rfl, ⟨_, rfl, hhost⟩, ⟨_, rfl, hrange⟩, rfl⟩
  | unix scheme named => exact .inr ⟨rfl, ⟨_, rfl, named⟩, rfl, rfl⟩

theorem Reads.scheme_eq_iff (h : Reads url address) :
    scheme ⟨url, address⟩ = tcpScheme ↔ (Url.partsOf url).scheme = tcpScheme := by
  have hschemes : unixScheme ≠ tcpScheme := by decide
  cases h with
  | tcp scheme _ _ _ => exact iff_of_true rfl scheme
  | unix scheme _ => exact iff_of_false hschemes scheme

theorem isDialing_dialTrace (e : Endpoint) : e.dialTrace.filter Activity.isDialing = e.dialTrace := by
  obtain ⟨url, address⟩ := e
  cases address <;> rfl

/-- An endpoint is dialed at its address and nowhere else, and its scheme is always known. -/
theorem connect_dials (e : Endpoint) (w : World) :
    (∀ scheme, (e.record.connect w ()).result ≠ .error (.unknownTransport scheme)) ∧
      (e.record.connect w ()).trace.filter Activity.isDialing = e.dialTrace := by
  cases h : w.connectFault with
  | none =>
    rw [connect_run h]
    refine ⟨fun scheme => by simp, ?_⟩
    rw [List.filter_append, isDialing_dialTrace]
    exact List.append_nil _
  | some f =>
    have hcleanup : (e.cleanupTrace f).filter Activity.isDialing = [] := by
      rw [cleanupTrace]
      split <;> rfl
    rw [connect_run_fault h]
    refine ⟨fun scheme => by simp, ?_⟩
    rw [List.filter_append, isDialing_dialTrace, hcleanup, List.append_nil]

/-- Reading any text as a URL, or no URL, gives an endpoint that is well formed or fails with a value
error.  The endpoint is one of TCP if and only if the URL is split into parts with that scheme, that
is, if the text before its first colon is `tcp` in capitals or small letters.  In every world a
connection to the endpoint is dialed at its address, and only there. -/
theorem parse_wellFormed (home : Text) (url : Option Text) :
    let given := url.getD (defaultSocketPath home)
    match parse home url with
    | .ok e =>
      e.url = given ∧ WellFormed e.record ∧
        (∃ parts, Url.split given = .ok parts ∧ (e.scheme = tcpScheme ↔ parts.scheme = tcpScheme)) ∧
        (e.scheme = tcpScheme ↔
          ∃ written, Url.HasScheme given written ∧ written.map CodePoint.asciiLower = tcpScheme) ∧
        ∀ world, (∀ scheme,
            (e.record.connect world ()).result ≠ .error (.unknownTransport scheme)) ∧
          (e.record.connect world ()).trace.filter Activity.isDialing = e.dialTrace
    | .error err => (Failure.endpoint err).errorClass = .value := by
  intro given
  cases h : parse home url with
  | error err => rfl
  | ok e =>
    obtain ⟨hurl, haddress⟩ := parse_eq_ok_iff.mp h
    obtain ⟨hcheck, hreads⟩ := reads_of_addressOf haddress
    rw [← hurl] at hreads
    have hscheme := hreads.scheme_eq_iff
    rw [hurl] at hscheme
    have hsplit : Url.split given = .ok (Url.partsOf given) := by
      rw [Url.split_eq, hcheck]
      rfl
    exact ⟨hurl, hreads.wellFormed, ⟨_, hsplit, hscheme⟩,
      hscheme.trans (Url.scheme_eq_iff tcpScheme_ne_nil), connect_dials e⟩

end Endpoint

end SupervisorRpc
