/-! How a case mapping is stored: most letters with case come in runs in which code points and
images advance together. -/

namespace SupervisorRpc

/-- The code points `first`, `first + stride`, … up to `last`, mapped to `image`,
`image + stride`, … in order. -/
structure CaseRun where
  first : Nat
  last : Nat
  stride : Nat
  image : Nat
deriving DecidableEq

/-- The image of code point `n` if the run has one. -/
def CaseRun.image? (run : CaseRun) (n : Nat) : Option Nat :=
  if run.first ≤ n ∧ n ≤ run.last ∧ (n - run.first) % run.stride = 0 then
    some (run.image + (n - run.first))
  else none

end SupervisorRpc
