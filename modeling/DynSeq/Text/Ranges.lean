namespace DynSeq.Text

namespace Ranges

def ascend (least : Nat) : List (Nat × Nat) → Bool
  | [] => true
  | (first, last) :: rest => least ≤ first && first ≤ last && ascend (last + 1) rest

/-- Looks no further than the first range that ends at the number or after it. -/
def covers (n : Nat) : List (Nat × Nat) → Bool
  | [] => false
  | (first, last) :: rest => if last < n then covers n rest else first ≤ n

variable {least n : Nat} {bounds : List (Nat × Nat)}

end Ranges

/-- A set of characters as closed ranges of code points. -/
structure Ranges where
  bounds : List (Nat × Nat)
  ascending : Ranges.ascend 0 bounds = true := by decide +kernel

namespace Ranges

instance : Membership Char Ranges where
  mem s c := ∃ range ∈ s.bounds, range.1 ≤ c.toNat ∧ c.toNat ≤ range.2

def contains (s : Ranges) (c : Char) : Bool :=
  covers c.toNat s.bounds

end Ranges

end DynSeq.Text
