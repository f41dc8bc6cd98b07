import SupervisorRpc.Proofs.Endpoint.TcpUrl

/-! The label of an endpoint, as messages show it, taken for a URL.  The label writes the host without
the brackets that it may have had.  The main statement says that the label of a TCP endpoint is read
as the same host and port if there is no colon and no bracket in the host, and that it is no endpoint at
all otherwise. -/

namespace SupervisorRpc

namespace Endpoint

variable {home url host : Text} {port : Nat}

/-- What is known of the host and the port of an endpoint that was read. -/
structure ReadHost (host : Text) (port : Nat) : Prop where
  isHost : IsHost host
  lowered : Url.lowerHost host = host
  plain : ∀ c ∈ host, c.val ∉ Url.confusables
  bracket : point '[' ∉ host ∨ point ']' ∉ host
  range : port ≤ 65535

theorem readHost_of_reads (hcheck : Url.checkAuthority (Url.partsOf url).authority = .ok ())
    (h : Reads url (.tcp host port)) : ReadHost host port := by
  cases h with
  | @tcp written _ _ scheme ending number named =>
    have hhost : (Url.hostPort (Url.partsOf url).authority).1 = written := congrArg Prod.fst ending
    refine ⟨isHost_lowerHost hhost named, Url.lowerHost_lowerHost _, ?_, ?_, ?_⟩
    · intro c hc
      rcases Url.mem_lowerHost hc with hmem | himage
      · rw [← hhost] at hmem
        exact Url.not_confusable_of_checkAuthority hcheck c (Url.mem_hostPort hmem).1
      · exact Url.not_confusable_of_lowerImage himage
    · have hbracket := Url.bracket_notMem_hostPort (Url.partsOf url).authority
      rw [hhost] at hbracket
      exact hbracket.imp (mt (Url.mem_of_mem_lowerHost (by decide) (by decide)))
        (mt (Url.mem_of_mem_lowerHost (by decide) (by decide)))
    · obtain ⟨⟨-, -, hrange⟩, rfl⟩ := readPort_eq_ok_iff.mp number
      exact hrange

theorem parse_of_refused {e : Url.Error}
    (h : Url.checkAuthority (Url.partsOf url).authority = .error e) :
    parse home (some url) = .error (.url e) := by
  rw [parse, Option.getD_some, addressOf_of_refused h]
  rfl

theorem isAsciiNumber_ofNat (n : Nat) : (Text.ofNat n).isAsciiNumber = true := by
  rw [Text.isAsciiNumber, Bool.and_eq_true]
  refine ⟨?_, List.all_eq_true.mpr fun c hc => Text.isAsciiDigit_of_mem_ofNat hc⟩
  simpa using Text.ofNat_ne_nil n

theorem notMem_ofNat {c : CodePoint} (h : c.isAsciiDigit = false) (n : Nat) : c ∉ Text.ofNat n := by
  intro hc
  rw [Text.isAsciiDigit_of_mem_ofNat hc] at h
  cases h

/-- The delimiters that no port holds: colons and digits are not among them. -/
theorem portDelimiter_cases {c : CodePoint} (h : c ∈ text "/?#@[]\t\r\n") :
    c ∈ text "/?#@:[]\t\r\n" ∧ c ≠ point ':' ∧ c.isAsciiDigit = false := by
  have hall : ∀ c ∈ text "/?#@[]\t\r\n",
      c ∈ text "/?#@:[]\t\r\n" ∧ c ≠ point ':' ∧ c.isAsciiDigit = false := by decide
  exact hall c h

/-- Behind a text, a colon and a port add nothing but a colon and digits. -/
theorem mem_append_port {c : CodePoint} (hne : c ≠ point ':') (hdigit : c.isAsciiDigit = false)
    (t : Text) (port : Nat) : c ∈ t ++ point ':' :: Text.ofNat port ↔ c ∈ t := by
  simp [hne, notMem_ofNat hdigit port]

/-- A host and a port as a URL. -/
def labelUrl (host port : Text) : TcpUrl := ⟨tcpScheme, none, host, port, []⟩

theorem label_eq_url (url host : Text) (port : Nat) :
    label ⟨url, .tcp host port⟩ = (labelUrl host (Text.ofNat port)).url := by
  rw [TcpUrl.url, TcpUrl.authority, label]
  simp only [labelUrl, Option.elim_none, List.nil_append, List.append_nil, List.append_assoc]
  rfl

theorem url_labelUrl_colon (before after port : Text) :
    (labelUrl (before ++ point ':' :: after) port).url =
      (labelUrl before (after ++ point ':' :: port)).url := by
  simp only [TcpUrl.url, TcpUrl.authority, labelUrl, Option.elim_none, List.nil_append,
    List.append_assoc, List.cons_append]

theorem regular_labelUrl {written : Text} (hhost : ∀ c ∈ host, c ∉ text "/?#@:[]\t\r\n")
    (hwritten : ∀ c ∈ written, c ∉ text "/?#@[]\t\r\n") : (labelUrl host written).Regular where
  scheme := by
    show tcpScheme.map CodePoint.asciiLower = tcpScheme
    decide
  user := fun _ h => by cases h
  host := hhost
  port := hwritten
  tail := fun _ h => by cases h

namespace ReadHost

/-- The authority that the label of an endpoint shows is not ambiguous. -/
theorem plain_authority (h : ReadHost host port) :
    ∀ c ∈ host ++ point ':' :: Text.ofNat port, c.val ∉ Url.confusables := by
  intro c hc
  rw [List.mem_append, List.mem_cons] at hc
  rcases hc with hc | rfl | hc
  · exact h.plain c hc
  · decide
  · have hdigit := CodePoint.isAsciiDigit_iff.mp (Text.isAsciiDigit_of_mem_ofNat hc)
    exact TcpUrl.not_confusable_of_isAscii (CodePoint.isAscii_iff.mpr (by omega))

/-- Of the delimiters of a URL, only the colon and the brackets stand in the host of an endpoint. -/
theorem colon_or_bracket (h : ReadHost host port) {c : CodePoint} (hc : c ∈ host)
    (hmem : c ∈ text "/?#@:[]\t\r\n") : c ∈ text ":[]" := by
  have hall : ∀ c ∈ text "/?#@:[]\t\r\n", c ∈ text "/?#@\t\n\r" ∨ c ∈ text ":[]" := by decide
  exact (hall c hmem).resolve_left fun hdelimiter => h.isHost.undelimited c hdelimiter hc

theorem parse_label_plain (h : ReadHost host port) (hplain : ∀ c ∈ text ":[]", c ∉ host)
    (home url : Text) :
    parse home (some (label ⟨url, .tcp host port⟩)) =
      .ok ⟨label ⟨url, .tcp host port⟩, .tcp host port⟩ := by
  have hregular : (labelUrl host (Text.ofNat port)).Regular := by
    apply regular_labelUrl
    · exact fun c hc hmem => hplain c (h.colon_or_bracket hc hmem) hc
    · exact fun c hc hmem => notMem_ofNat (portDelimiter_cases hmem).2.2 port hc
  have hlength : (Text.ofNat port).length ≤ EndpointError.digitLimit := by
    have hshort : (Text.ofNat port).length ≤ 5 :=
      Text.length_ofNat_le (by decide) (Nat.lt_of_le_of_lt h.range (by decide))
    exact hshort.trans (by decide)
  have hvalue := Text.digitsValue_ofNat port
  rw [label_eq_url, hregular.parse_eq_ok_iff h.plain_authority]
  refine ⟨⟨⟨h.isHost.ne_nil, isAsciiNumber_ofNat port, ?_⟩, hlength⟩, ?_⟩
  · show Text.digitsValue (Text.ofNat port) ≤ 65535
    rw [hvalue]
    exact h.range
  · show _ = Endpoint.mk _ (.tcp (Url.lowerHost host) (Text.digitsValue (Text.ofNat port)))
    rw [h.lowered, hvalue]

theorem parse_label_colon (h : ReadHost host port) (hcolon : point ':' ∈ host)
    (hopen : point '[' ∉ host) (hclose : point ']' ∉ host) (home url : Text) (e : Endpoint) :
    parse home (some (label ⟨url, .tcp host port⟩)) ≠ .ok e := by
  have hcases : ∀ c ∈ text ":[]", c = point ':' ∨ c = point '[' ∨ c = point ']' := by decide
  have honly : ∀ c ∈ host, c ∈ text "/?#@:[]\t\r\n" → c = point ':' := by
    intro c hc hmem
    rcases hcases c (h.colon_or_bracket hc hmem) with heq | rfl | rfl
    · exact heq
    · exact absurd hc hopen
    · exact absurd hc hclose
  rcases Text.cut_cases (point ':') host with ⟨hnone, -⟩ | ⟨before, after, hbefore, rfl, -⟩
  · exact absurd hcolon hnone
  -- The label is also what is written for the host `before`, with a port that holds a colon.
  have hregular : (labelUrl before (after ++ point ':' :: Text.ofNat port)).Regular := by
    apply regular_labelUrl
    · intro c hc hmem
      obtain rfl := honly c (List.mem_append_left _ hc) hmem
      exact hbefore hc
    · intro c hc hmem
      obtain ⟨hmem, hne, hdigit⟩ := portDelimiter_cases hmem
      have hafter := (mem_append_port hne hdigit after port).mp hc
      exact hne (honly c (List.mem_append_right _ (List.mem_cons_of_mem _ hafter)) hmem)
  have hplain := h.plain_authority
  rw [List.append_assoc, List.cons_append] at hplain
  rw [label_eq_url, url_labelUrl_colon, ne_eq, hregular.parse_eq_ok_iff hplain]
  rintro ⟨⟨⟨-, hnumber, -⟩, -⟩, -⟩
  rw [Text.isAsciiNumber, Bool.and_eq_true] at hnumber
  have hdigit := List.all_eq_true.mp hnumber.2 (point ':')
    (List.mem_append_right _ List.mem_cons_self)
  exact absurd hdigit (by decide)

/-- A bracket in the host has no partner in the label. -/
theorem parse_label_bracket (h : ReadHost host port)
    (hbracket : point '[' ∈ host ∨ point ']' ∈ host) (home url : Text) :
    parse home (some (label ⟨url, .tcp host port⟩)) = .error (.url .brackets) := by
  have hdelimiters : ∀ c ∈ text "/?#\t\r\n", c ∈ text "/?#@[]\t\r\n" ∧ c ∉ text ":[]" := by
    decide
  have hauthority : ∀ c ∈ host ++ point ':' :: Text.ofNat port,
      Url.endsAuthority c = false ∧ Url.isIgnored c = false := by
    intro c hc
    apply TcpUrl.not_delimiter
    intro hmem
    obtain ⟨hport, hnone⟩ := hdelimiters c hmem
    obtain ⟨hmem, hne, hdigit⟩ := portDelimiter_cases hport
    exact hnone (h.colon_or_bracket ((mem_append_port hne hdigit host port).mp hc) hmem)
  have hscheme : Url.isScheme tcpScheme = true := by decide
  have htail : ∀ c ∈ ([] : Text).head?, Url.endsAuthority c = true := fun c hc => by cases hc
  obtain ⟨-, hparts⟩ := Url.partsOf_authority hscheme hauthority htail
  have hurl : (labelUrl host (Text.ofNat port)).url =
    tcpScheme ++ text "://" ++ (host ++ point ':' :: Text.ofNat port) ++ [] := rfl
  rw [label_eq_url]
  apply parse_of_refused (e := .brackets)
  rw [hurl, hparts]
  apply Url.checkAuthority_of_bracket
  rw [mem_append_port (by decide) (by decide), mem_append_port (by decide) (by decide)]
  rcases hbracket with hin | hin
  · exact .inl ⟨hin, h.bracket.resolve_left (not_not_intro hin)⟩
  · exact .inr ⟨h.bracket.resolve_right (not_not_intro hin), hin⟩

end ReadHost

/-- The label of an endpoint of TCP is a URL of the same host and port, wherever it is read, if its host
holds no colon and no bracket.  Otherwise the label is not accepted as a URL. -/
theorem parse_label {url : Option Text} {e : Endpoint} (h : parse home url = .ok e)
    (haddress : e.address = .tcp host port) (home' : Text) :
    if ∀ c ∈ text ":[]", c ∉ host then
      parse home' (some e.label) = .ok ⟨e.label, .tcp host port⟩
    else ∃ err, parse home' (some e.label) = .error err := by
  obtain ⟨hcheck, hreads⟩ := reads_of_addressOf (parse_eq_ok_iff.mp h).2
  rw [haddress] at hreads
  have hhost := readHost_of_reads hcheck hreads
  obtain ⟨url', address⟩ := e
  obtain rfl : address = .tcp host port := haddress
  split_ifs with hplain
  · exact hhost.parse_label_plain hplain home' url'
  · by_cases hbracket : point '[' ∈ host ∨ point ']' ∈ host
    · exact ⟨_, hhost.parse_label_bracket hbracket home' url'⟩
    · obtain ⟨hopen, hclose⟩ := not_or.mp hbracket
      have hcolon : point ':' ∈ host := by
        by_contra hcolon
        exact hplain (by simp [Text.ofString, hcolon, hopen, hclose])
      cases hresult : parse home' (some (label ⟨url', .tcp host port⟩)) with
      | error err => exact ⟨err, rfl⟩
      | ok e => exact absurd hresult (hhost.parse_label_colon hcolon hopen hclose home' url' e)

/-- A user, capitals, an address without brackets and a zone. -/
theorem parse_label_zone :
    let url : Text := "TCP://a:b@FE80%Eth0:00080/run"
    let e : Endpoint := ⟨url, .tcp "fe80%Eth0" 80⟩
    parse "/root" (some url) = .ok e ∧
      parse "/" (some e.label) = .ok ⟨"tcp://fe80%Eth0:80", .tcp "fe80%Eth0" 80⟩ := by
  intro url e
  have he : parse "/root" (some url) = .ok e := by decide +kernel
  have hlabel : e.label = text "tcp://fe80%Eth0:80" := by decide +kernel
  have hparse := parse_label he rfl "/"
  rw [if_pos (by decide), hlabel] at hparse
  rw [hlabel]
  exact ⟨he, hparse⟩

/-- An IPv6 address loses its brackets, and with them the label its port. -/
theorem parse_label_bracketed :
    let e : Endpoint := ⟨"tcp://[::1]:80", .tcp "::1" 80⟩
    parse "/root" (some "tcp://[::1]:80") = .ok e ∧ e.label = text "tcp://::1:80" ∧
      parse "/root" (some e.label) = .error (.port ":1:80") := by
  intro e
  exact ⟨by decide +kernel, by decide +kernel, by decide +kernel⟩

end Endpoint

end SupervisorRpc
