import SupervisorRpc.Text.Class

/-! Filling a paragraph into lines of a given width.  A paragraph is cut into chunks that stay whole:
runs of blanks, words, parts of words up to a hyphen between letters, and dashes between words.  A
line takes chunks while they fit; a chunk wider than a line is broken, after a hyphen if it has one
in the right place. -/

namespace SupervisorRpc

namespace Text

/-- Word code points and the punctuation that may stand at either side of a dash. -/
def isWordOrMark (c : CodePoint) : Bool := c.isWord || c ∈ text "!\"'&.,?"

/-- `t` begins with a dash of two or more hyphens that a word follows. -/
def beginsDash (t : Text) : Bool :=
  let hyphens := t.takeWhile (· = point '-')
  2 ≤ hyphens.length &&
    match t.drop hyphens.length with
    | c :: _ => c.isWord
    | [] => false

/-- `t` begins with two letters, or with two letters and a hyphen between them. -/
def beginsPart (t : Text) : Bool :=
  match t with
  | a :: b :: rest =>
    a.isLetter && (b.isLetter || b = point '-' && (rest.head?.map CodePoint.isLetter).getD false)
  | _ => false

/-- A word may be broken after the hyphen that follows `before` (nearest first) and precedes
`after`: letters stand on both sides, two in a row or with one hyphen more between them. -/
def breaksAtHyphen (before after : Text) : Bool := beginsPart before && beginsPart after

/-- The length of the part of a word at the front of a text; `before` stands before it, nearest
first. -/
def wordLength (before : Text) : Text → Nat
  | [] => 0
  | c :: rest =>
    match rest with
    | [] => 1
    | d :: after =>
      if d = point '-' && breaksAtHyphen (c :: before) after then 2
      else if d.isAsciiBlank || isWordOrMark c && beginsDash rest then 1
      else 1 + wordLength (c :: before) rest

/-- The length of the chunk at the front of a text that is not empty. -/
def chunkLength (before rest : Text) : Nat :=
  let blanks := rest.takeWhile CodePoint.isAsciiBlank
  if !blanks.isEmpty then blanks.length
  else if (before.head?.map isWordOrMark).getD false && beginsDash rest then
    (rest.takeWhile (· = point '-')).length
  else wordLength before rest

/-- The chunks of `rest`, which follows `before` (nearest first); `fuel` bounds their number. -/
def chunksFrom : (fuel : Nat) → (before rest : Text) → List Text
  | 0, _, _ => []
  | _ + 1, _, [] => []
  | fuel + 1, before, rest =>
    let size := max 1 (chunkLength before rest)
    let chunk := rest.take size
    chunk :: chunksFrom fuel (chunk.reverse ++ before) (rest.drop size)

/-- The chunks of a paragraph. -/
def chunks (t : Text) : List Text := chunksFrom t.length [] t

/-- The chunks that still fit on a line of `width` that holds `used` code points, and the others. -/
def fitting (width used : Nat) : List Text → List Text × List Text
  | [] => ([], [])
  | chunk :: rest =>
    if used + chunk.length ≤ width then
      let (line, others) := fitting width (used + chunk.length) rest
      (chunk :: line, others)
    else ([], chunk :: rest)

/-- Where to break a chunk that is wider than a line and has `space` left on this one: after the
last hyphen in that space that something else precedes, or at the end of the space. -/
def breakPoint (chunk : Text) (space : Nat) : Nat :=
  match cutLast (point '-') (chunk.take space) with
  | (none, _) => space
  | (some before, _) => if before.any (· ≠ point '-') then before.length + 1 else space

def isBlankText (t : Text) : Bool := t.all CodePoint.isBlank

/-- The lines of chunks; blank chunks at either end of a line are dropped, except the very first.
`fuel` bounds the number of lines. -/
def fillFrom (width : Nat) : (fuel : Nat) → (first : Bool) → List Text → List Text
  | 0, _, _ => []
  | _ + 1, _, [] => []
  | fuel + 1, first, chunk :: rest =>
    let pending := if !first && isBlankText chunk then rest else chunk :: rest
    let (line, others) := fitting width 0 pending
    let (line, others) :=
      match others with
      | [] => (line, [])
      | wide :: after =>
        if width < wide.length then
          let cut := breakPoint wide (width - (line.map List.length).sum)
          (line ++ [wide.take cut], wide.drop cut :: after)
        else (line, wide :: after)
    let line := if (line.getLast?.map isBlankText).getD false then line.dropLast else line
    if line.isEmpty then fillFrom width fuel first others
    else line.flatten :: fillFrom width fuel false others

/-- The lines of a paragraph at `width` code points, which is positive. -/
def fill (width : Nat) (t : Text) : List Text := fillFrom width (2 * t.length + 1) true (chunks t)

/-- A paragraph with each run of blanks as one space, and none at its ends. -/
def collapse (t : Text) : Text :=
  let rec go : (afterBlank : Bool) → Text → Text
    | _, [] => []
    | afterBlank, c :: rest =>
      if c.isAsciiBlank then (if afterBlank then go true rest else point ' ' :: go true rest)
      else c :: go false rest
  trim CodePoint.isBlank (go false t)

end Text

end SupervisorRpc
