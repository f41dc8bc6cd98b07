import SupervisorRpc.Text.Case
import SupervisorRpc.Text.Quoted
import SupervisorRpc.Url.Address

/-! Splitting a URL into scheme, authority and path.  Blanks and controls in front of it and line ends
and tabs anywhere are ignored; a text without a scheme is split all the same.  The authority ends in
a host and a port, and a host in brackets has to be an address. -/

namespace SupervisorRpc

namespace Url

/-- What a URL is made of; its query and fragment are dropped. -/
structure Parts where
  scheme : Text
  authority : Text
  path : Text
deriving DecidableEq

/-- Why a URL is refused. -/
inductive Error where
  /-- Brackets that do not match, or text beside them. -/
  | brackets
  /-- A host in brackets that is no address. -/
  | notAnAddress (host : Text)
  /-- An IPv4 address in brackets. -/
  | bracketedIPv4
  /-- An address of a later version that is ill-formed. -/
  | futureAddress
  /-- An authority with code points that compatibility mapping turns into delimiters. -/
  | confusable (authority : Text)
deriving DecidableEq

def Error.message : Error → Text
  | .brackets => "Invalid IPv6 URL"
  | .notAnAddress host => host.quoted ++ text " does not appear to be an IPv4 or IPv6 address"
  | .bracketedIPv4 => "An IPv4 address cannot be in brackets"
  | .futureAddress => "IPvFuture address is invalid"
  | .confusable authority =>
    text "netloc '" ++ authority ++ text "' contains invalid characters under NFKC normalization"

/-- Tabs and line ends, which are ignored anywhere. -/
def isIgnored (c : CodePoint) : Bool := c = point '\t' || c = point '\n' || c = point '\r'

/-- A URL without what is ignored in it. -/
def cleaned (url : Text) : Text :=
  (url.dropWhile (·.val ≤ 0x20)).filter (!isIgnored ·)

/-- What a scheme may hold after its first letter. -/
def isSchemePoint (c : CodePoint) : Bool :=
  c.isAsciiLetter || c.isAsciiDigit || c ∈ text "+-."

/-- A letter, and then letters, digits, `+`, `-` and `.`. -/
def isScheme (t : Text) : Bool :=
  (t.head?.map CodePoint.isAsciiLetter).getD false && t.all isSchemePoint

/-- The scheme of a cleaned URL in lower case, empty if it has none, and what follows it. -/
def splitScheme (url : Text) : Text × Text :=
  match Text.cut (point ':') url with
  | (before, some after) => if isScheme before then (before.map CodePoint.asciiLower, after) else ([], url)
  | (_, none) => ([], url)

/-- The delimiters that end an authority. -/
def endsAuthority (c : CodePoint) : Bool := c = point '/' || c = point '?' || c = point '#'

/-- The authority after `//`, if that is there, and what follows it. -/
def splitAuthority (t : Text) : Option Text × Text :=
  match t with
  | a :: b :: rest =>
    if a = point '/' ∧ b = point '/' then
      (some (rest.takeWhile (!endsAuthority ·)), rest.dropWhile (!endsAuthority ·))
    else (none, t)
  | _ => (none, t)

/-- The host in brackets of an authority, unbracketed, or what stands in its place. -/
def checkBracketedHost (host : Text) : Except Error Unit :=
  if host.head? = some (point 'v') then
    if isFutureAddress host then .ok () else .error .futureAddress
  else if isIPv4 host then .error .bracketedIPv4
  else if isIPv6 host then .ok ()
  else .error (.notAnAddress host)

/-- An authority without brackets is accepted.  Otherwise both brackets have to be there, and after
the last `@` a bracket has to come first and only a port may follow its partner. -/
def checkBrackets (authority : Text) : Except Error Unit :=
  match authority.contains (point '['), authority.contains (point ']') with
  | false, false => .ok ()
  | true, true =>
    let hostPort := (Text.cutLast (point '@') authority).2
    match Text.cut (point '[') hostPort with
    | (before, some inside) =>
      if before ≠ [] then .error .brackets
      else
        let (host, after) := Text.cut (point ']') inside
        match after.getD [] with
        | [] => checkBracketedHost host
        | c :: _ => if c = point ':' then checkBracketedHost host else .error .brackets
    | (_, none) => checkBracketedHost (Text.cut (point ':') hostPort).1
  | _, _ => .error .brackets

/-- The code points that compatibility mapping (NFKC) turns into text with one of `/?#@:`. -/
def confusables : List Nat :=
  [0x2047, 0x2048, 0x2049, 0x2100, 0x2101, 0x2105, 0x2106, 0x2A74, 0xFE13, 0xFE16, 0xFE55, 0xFE56,
    0xFE5F, 0xFE6B, 0xFF03, 0xFF0F, 0xFF1A, 0xFF1F, 0xFF20]

/-- Refuses an authority that reads otherwise after compatibility mapping. -/
def checkConfusables (authority : Text) : Except Error Unit :=
  if authority.any fun c => c.val ∈ confusables then .error (.confusable authority) else .ok ()

/-- The parts of a URL. -/
def split (url : Text) : Except Error Parts := do
  let (scheme, afterScheme) := splitScheme (cleaned url)
  let (authority?, afterAuthority) := splitAuthority afterScheme
  let authority := authority?.getD []
  checkBrackets authority
  let path := (Text.cut (point '?') (Text.cut (point '#') afterAuthority).1).1
  checkConfusables authority
  return ⟨scheme, authority, path⟩

/-- The host and port at the end of an authority, as they are written.  An empty port is none. -/
def hostPort (authority : Text) : Text × Option Text :=
  let ending := (Text.cutLast (point '@') authority).2
  let (host, port) :=
    match Text.cut (point '[') ending with
    | (_, some inside) =>
      let (host, after) := Text.cut (point ']') inside
      (host, (Text.cut (point ':') (after.getD [])).2)
    | (_, none) => Text.cut (point ':') ending
  (host, if port = some [] then none else port)

/-- A host in lower case; a zone after `%` is kept as it is. -/
def lowerHost (host : Text) : Text :=
  match Text.cut (point '%') host with
  | (name, none) => name.lower
  | (name, some zone) => name.lower ++ point '%' :: zone

end Url

end SupervisorRpc
