import SupervisorRpc.Proofs.Endpoint.Reading
import SupervisorRpc.Proofs.Text.Decimal

/-! URLs of a host and a port, written part by part.  The main statement says of all such URLs in ASCII
which of them are endpoints, and which endpoints they are. -/

namespace SupervisorRpc

namespace Endpoint

/-- The parts of a URL `scheme://user@host:port` with a tail behind it. -/
structure TcpUrl where
  scheme : Text
  user : Option Text
  host : Text
  port : Text
  tail : Text

namespace TcpUrl

variable {u : TcpUrl} {home : Text} {e : Endpoint}

def authority (u : TcpUrl) : Text :=
  u.user.elim [] (· ++ [point '@']) ++ (u.host ++ point ':' :: u.port)

def url (u : TcpUrl) : Text := u.scheme ++ text "://" ++ u.authority ++ u.tail

/-- The scheme is `tcp`, in capitals or small letters.  What is written between it and the tail holds no
bracket, no delimiter of the tail and nothing that is ignored in a URL, the host and the port hold no
`@`, and the host holds no colon. -/
structure Regular (u : TcpUrl) : Prop where
  scheme : u.scheme.map CodePoint.asciiLower = tcpScheme
  user : ∀ user ∈ u.user, ∀ c ∈ user, c ∉ text "/?#[]\t\r\n"
  host : ∀ c ∈ u.host, c ∉ text "/?#@:[]\t\r\n"
  port : ∀ c ∈ u.port, c ∉ text "/?#@[]\t\r\n"
  tail : ∀ c ∈ u.tail.head?, c ∈ text "/?#"

/-- The host is there, and the port is a decimal number of 16 bits. -/
def Accepted (u : TcpUrl) : Prop :=
  u.host ≠ [] ∧ u.port.isAsciiNumber = true ∧ Text.digitsValue u.port ≤ 65535

instance (u : TcpUrl) : Decidable u.Accepted := inferInstanceAs (Decidable (_ ∧ _ ∧ _))

theorem isScheme_of_lower {written : Text} (h : written.map CodePoint.asciiLower = tcpScheme) :
    Url.isScheme written = true := by
  have hsmall : ∀ c ∈ tcpScheme, c.isAsciiLower = true := by decide
  have hletter : ∀ c ∈ written, c.isAsciiLetter = true := by
    intro c hc
    have hlower := hsmall c.asciiLower (h ▸ List.mem_map_of_mem hc)
    rw [CodePoint.asciiLower] at hlower
    rw [CodePoint.isAsciiLetter, Bool.or_eq_true]
    split at hlower
    · next hupper => exact .inl hupper
    · exact .inr hlower
  cases written with
  | nil => cases h
  | cons first rest =>
    rw [Url.isScheme, Bool.and_eq_true]
    refine ⟨hletter first List.mem_cons_self, List.all_eq_true.mpr fun c hc => ?_⟩
    simp only [Url.isSchemePoint, hletter c hc, Bool.true_or]

theorem not_delimiter {c : CodePoint} (h : c ∉ text "/?#\t\r\n") :
    Url.endsAuthority c = false ∧ Url.isIgnored c = false := by
  rw [← Bool.not_eq_true, ← Bool.not_eq_true]
  constructor
  · intro hends
    simp only [Url.endsAuthority, Bool.or_eq_true, decide_eq_true_eq] at hends
    rcases hends with (rfl | rfl) | rfl <;> exact absurd h (by decide)
  · intro hignored
    simp only [Url.isIgnored, Bool.or_eq_true, decide_eq_true_eq] at hignored
    rcases hignored with (rfl | rfl) | rfl <;> exact absurd h (by decide)

theorem Regular.mem_authority (h : u.Regular) {c : CodePoint} (hc : c ∈ u.authority) :
    c ∉ text "/?#[]\t\r\n" := by
  have hhost : ∀ c ∈ text "/?#[]\t\r\n", c ∈ text "/?#@:[]\t\r\n" := by decide
  have hport : ∀ c ∈ text "/?#[]\t\r\n", c ∈ text "/?#@[]\t\r\n" := by decide
  rw [authority, List.mem_append, List.mem_append, List.mem_cons] at hc
  rcases hc with hc | hc | rfl | hc
  · cases huser : u.user with
    | none =>
      rw [huser] at hc
      cases hc
    | some user =>
      rw [huser, Option.elim_some, List.mem_append, List.mem_singleton] at hc
      rcases hc with hc | rfl
      · exact h.user user huser c hc
      · decide
  · exact fun hmem => h.host c hc (hhost c hmem)
  · decide
  · exact fun hmem => h.port c hc (hport c hmem)

theorem Regular.partsOf (h : u.Regular) :
    (Url.partsOf u.url).scheme = tcpScheme ∧ (Url.partsOf u.url).authority = u.authority := by
  have hdelimiters : ∀ c ∈ text "/?#\t\r\n", c ∈ text "/?#[]\t\r\n" := by decide
  have hauthority : ∀ c ∈ u.authority, Url.endsAuthority c = false ∧ Url.isIgnored c = false :=
    fun c hc => not_delimiter (mt (hdelimiters c) (h.mem_authority hc))
  have htail : ∀ c ∈ text "/?#", Url.endsAuthority c = true := by decide
  have hparts := Url.partsOf_authority (isScheme_of_lower h.scheme) hauthority fun c hc =>
    htail c (h.tail c hc)
  rw [h.scheme] at hparts
  exact hparts

/-- A regular URL that no code point makes ambiguous is an endpoint if and only if it has a host and a
port in range, whose digits are few enough to be read. -/
theorem Regular.parse_eq_ok_iff (h : u.Regular)
    (hplain : ∀ c ∈ u.authority, c.val ∉ Url.confusables) :
    parse home (some u.url) = .ok e ↔
      (u.Accepted ∧ u.port.length ≤ EndpointError.digitLimit) ∧
        e = ⟨u.url, .tcp (Url.lowerHost u.host) (Text.digitsValue u.port)⟩ := by
  obtain ⟨hscheme, hauthority⟩ := h.partsOf
  have hcheck : Url.checkAuthority (Url.partsOf u.url).authority = .ok () := by
    rw [hauthority]
    exact Url.checkAuthority_of_plain (fun hc => h.mem_authority hc (by decide))
      (fun hc => h.mem_authority hc (by decide)) hplain
  have hhostPort : Url.hostPort u.authority =
      (u.host, if u.port = [] then none else some u.port) :=
    Url.hostPort_of_notMem (fun hc => h.host _ hc (by decide)) (fun hc => h.host _ hc (by decide))
      (fun hc => h.host _ hc (by decide)) (fun hc => h.port _ hc (by decide))
      (fun hc => h.port _ hc (by decide)) u.user
  obtain ⟨url, address⟩ := e
  rw [Endpoint.parse_eq_ok_iff, Option.getD_some, addressOf_of_accepted hcheck, if_pos hscheme,
    hauthority, tcpAddress_eq_ok_iff hhostPort]
  simp only [readPort_eq_ok_iff]
  constructor
  · rintro ⟨rfl, written, port, hport, ⟨⟨hnumber, hlength, hrange⟩, rfl⟩, hhost, rfl⟩
    split_ifs at hport
    obtain rfl := Option.some.inj hport
    exact ⟨⟨⟨hhost, hnumber, hrange⟩, hlength⟩, rfl⟩
  · rintro ⟨⟨⟨hhost, hnumber, hrange⟩, hlength⟩, heq⟩
    obtain ⟨rfl, rfl⟩ := Endpoint.mk.inj heq
    have hne : u.port ≠ [] := by
      intro hnil
      rw [hnil] at hnumber
      cases hnumber
    exact ⟨rfl, u.port, _, if_neg hne, ⟨⟨hnumber, hlength, hrange⟩, rfl⟩, hhost, rfl⟩

theorem not_confusable_of_isAscii {c : CodePoint} (h : c.isAscii = true) :
    c.val ∉ Url.confusables := by
  have hwide : ∀ n ∈ Url.confusables, 0x80 ≤ n := by decide
  have hlt := CodePoint.isAscii_iff.mp h
  exact fun hmem => absurd (hwide c.val hmem) (by omega)

/-- A regular URL in ASCII is an endpoint if and only if its host is not empty and its port is one or more
digits that denote a number of at most 16 bits.  The endpoint has the host in small letters up to its
zone, and the number as its port; zeros in front of it make no difference. -/
theorem parse_tcpUrl (home : Text) (h : u.Regular) (hascii : ∀ c ∈ u.authority, c.isAscii = true)
    (hlength : u.port.length ≤ 4300) :
    if u.Accepted then
      parse home (some u.url) = .ok ⟨u.url, .tcp
        ((Url.hostName u.host).map CodePoint.asciiLower ++ Url.hostZone u.host)
        (Text.digitsValue u.port)⟩
    else
      ∃ err, parse home (some u.url) = .error err ∧ (Failure.endpoint err).errorClass = .value := by
  have hparse : ∀ e, parse home (some u.url) = .ok e ↔ _ := fun e =>
    h.parse_eq_ok_iff fun c hc => not_confusable_of_isAscii (hascii c hc)
  have hhost : ∀ c ∈ u.host, c.isAscii = true := fun c hc =>
    hascii c (List.mem_append_right _ (List.mem_append_left _ hc))
  split_ifs with haccepted
  · rw [hparse, Url.lowerHost_of_isAscii hhost]
    exact ⟨⟨haccepted, hlength⟩, rfl⟩
  · cases hresult : parse home (some u.url) with
    | error err => exact ⟨err, rfl, rfl⟩
    | ok e => exact absurd ((hparse e).mp hresult).1.1 haccepted

/-- Two signs for a user, capitals in the scheme, the host and its zone, zeros in front of the port, and a
tail with brackets. -/
theorem parse_tcpUrl_zone :
    let u : TcpUrl := ⟨"TcP", some (text "me:x@y"), "Host%Eth0", "0080", "?[é"⟩
    u.Regular ∧ u.Accepted ∧
      parse "/root" (some u.url) = .ok ⟨u.url, .tcp "host%Eth0" 80⟩ := by
  intro u
  have hregular : u.Regular := by
    refine ⟨by decide, ?_, by decide, by decide, by decide⟩
    intro user huser
    obtain rfl := Option.some.inj huser
    decide
  have haccepted : u.Accepted := by decide
  have hparse := parse_tcpUrl "/root" hregular (by decide) (by decide)
  rw [if_pos haccepted] at hparse
  have hhost : (Url.hostName u.host).map CodePoint.asciiLower ++ Url.hostZone u.host =
      text "host%Eth0" := by decide
  have hport : Text.digitsValue u.port = 80 := by decide
  rw [hhost, hport] at hparse
  exact ⟨hregular, haccepted, hparse⟩

end TcpUrl

end Endpoint

end SupervisorRpc
