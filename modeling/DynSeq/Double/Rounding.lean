import DynSeq.Double

namespace DynSeq.Double

def roundDiv (num den : Nat) : Nat :=
  let q := num / den
  let r := 2 * (num % den)
  if den < r ∨ (r = den ∧ q % 2 = 1) then q + 1 else q

/-- The magnitude of the double precision number nearest to a positive quotient, where
`2 ^ 52 ≤ num / den / 2 ^ scale` unless `scale` is the least. Rounding up to the next power of two
runs over into the exponent field, as it should. -/
def magnitudeAt (num den : Nat) (scale : Int) : Nat :=
  let m := roundDiv (num <<< (-scale).toNat) (den <<< scale.toNat)
  min infinity (m + ((scale + 1074).toNat <<< 52))

/-- The double precision number nearest to a quotient, ties going to the even significand, or
infinity if the quotient is too large. -/
def nearest (negative : Bool) (num den : Nat) : Double :=
  if num = 0 then ofParts negative 0
  else
    let guess : Int := (num.log2 : Int) - (den.log2 : Int) - 52
    let scale :=
      if den <<< (52 + guess.toNat) ≤ num <<< (-guess).toNat then guess else guess - 1
    ofParts negative (magnitudeAt num den (max scale (-1074)))

def mulAbs (a b : Double) : Double :=
  nearest false (a.ratio.1 * b.ratio.1) (a.ratio.2 * b.ratio.2)

def divAbs (a b : Double) : Double :=
  nearest false (a.ratio.1 * b.ratio.2) (a.ratio.2 * b.ratio.1)

def ofNat (n : Nat) : Double :=
  nearest false n 1

def ofInt (n : Int) : Double :=
  nearest (n < 0) n.natAbs 1

def neg (d : Double) : Double :=
  ofParts (!d.isNegative) d.magnitude

end DynSeq.Double
