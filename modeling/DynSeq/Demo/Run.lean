import DynSeq.Value

namespace DynSeq.Demo

def signature : Demo → Signature
  | .inc => ⟨[.int], [.int]⟩
  | .odd => ⟨[.int], [.bool]⟩
  | .never => ⟨[], [.bool]⟩

/-- Adding one wraps around. A remainder keeps the sign of its dividend, so that no negative
number is odd. Arguments that do not fit the signature give null or false. -/
def run : Demo → List Value → List Value
  | .inc, [.int n] => [.int (n + 1)]
  | .inc, _ => [.null]
  | .odd, [.int n] => [.bool (n % 2 == 1)]
  | .odd, _ => [.bool false]
  | .never, _ => [.bool false]

def callable (d : Demo) (identity : Nat) : Callable :=
  ⟨d.name, d.signature, ⟨identity, .demo d⟩⟩

end DynSeq.Demo
