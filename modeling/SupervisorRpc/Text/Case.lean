import SupervisorRpc.Text.Basic
import SupervisorRpc.Text.Case.Upper
import SupervisorRpc.Text.Case.Lower

/-! Case mapping of single code points and of text.  A code point may have several code points as
its upper case.  A capital sigma at the end of a word has a lower case of its own. -/

namespace SupervisorRpc

namespace CodePoint

/-- The image of `c` under the first run or expansion that has it, and `c` itself otherwise. -/
def mapCase (runs : List CaseRun) (expansions : List (Nat × List Nat)) (c : CodePoint) : Text :=
  match runs.findSome? (·.image? c.val) with
  | some image => [ofNat image]
  | none =>
    match expansions.lookup c.val with
    | some images => images.map ofNat
    | none => [c]

/-- The upper case of a code point. -/
def upper (c : CodePoint) : Text := mapCase upperRuns upperExpansions c

/-- The lower case of a code point on its own. -/
def lower (c : CodePoint) : Text := mapCase lowerRuns lowerExpansions c

def isCaseIgnorable (c : CodePoint) : Bool :=
  caseIgnorableRanges.any fun range => c.within range.1 range.2

def isCased (c : CodePoint) : Bool := casedRanges.any fun range => c.within range.1 range.2

/-- Capital sigma. -/
def capitalSigma : CodePoint := ⟨0x3A3, by decide⟩

/-- The small sigma that ends a word. -/
def finalSigma : CodePoint := ⟨0x3C2, by decide⟩

end CodePoint

namespace Text

/-- The upper case of a text: each code point on its own. -/
def upper (t : Text) : Text := t.flatMap CodePoint.upper

/-- `t` begins with a cased letter, marks and signs between letters aside. -/
def beginsCased (t : Text) : Bool :=
  match t.dropWhile CodePoint.isCaseIgnorable with
  | [] => false
  | c :: _ => c.isCased

/-- The lower case of a text whose code points before it are `before`, nearest first. -/
def lowerAfter (before : Text) : Text → Text
  | [] => []
  | c :: rest =>
    let image :=
      if c = CodePoint.capitalSigma ∧ beginsCased before ∧ ¬ beginsCased rest then
        [CodePoint.finalSigma]
      else c.lower
    image ++ lowerAfter (c :: before) rest

/-- The lower case of a text.  A capital sigma that follows a cased letter and comes before none
becomes a final sigma. -/
def lower (t : Text) : Text := lowerAfter [] t

end Text

end SupervisorRpc
