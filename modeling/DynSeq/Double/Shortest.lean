import DynSeq.Double

namespace DynSeq.Double

structure Decimal where
  digits : Nat
  exponent : Int
deriving DecidableEq, Inhabited

def Decimal.carry (x : Decimal) : Decimal :=
  if x.digits = 10 then ⟨1, x.exponent + 1⟩ else x

inductive Tie where
  | up
  | even
deriving DecidableEq

/-- The real numbers that round to a finite positive one, all scaled by the same positive factor
to be natural: the least, the number itself and the greatest. The bounds themselves round to it
exactly when its significand is even. -/
structure Interval where
  low : Nat
  mid : Nat
  high : Nat
  closed : Bool

/-- In quarters of the last place: half a place on both sides, but only a quarter below a power of
two, where the numbers before it lie twice as dense. -/
def quarters (d : Double) : Interval where
  low := 4 * d.significand - if d.fraction = 0 ∧ 1 < d.exponentField then 1 else 2
  mid := 4 * d.significand
  high := 4 * d.significand + 2
  closed := d.significand % 2 == 0

def Interval.mem (i : Interval) (x : Nat) : Bool :=
  if i.closed then i.low ≤ x && x ≤ i.high else i.low < x && x < i.high

def digitsBeforePoint (d : Double) : Int :=
  let (num, den) := d.ratio
  ((num * Nat.pow 10 340 / den).repr.length : Int) - 340

def onGrid (tie : Tie) (d : Double) (exponent : Int) : Option Decimal :=
  let quarter : Int := d.scale - 2
  let unit := Nat.pow 10 exponent.toNat <<< (-quarter).toNat
  let factor := Nat.pow 10 (-exponent).toNat <<< quarter.toNat
  let q := d.quarters
  let i : Interval := ⟨q.low * factor, q.mid * factor, q.high * factor, q.closed⟩
  let below := i.mid / unit
  let rest := i.mid % unit
  let down := i.mem (below * unit)
  let up := i.mem ((below + 1) * unit)
  let preferUp := unit < 2 * rest ∨ (2 * rest = unit ∧ (tie = .up ∨ below % 2 = 1))
  if up ∧ (¬down ∨ preferUp) then some ⟨below + 1, exponent⟩
  else if down then some ⟨below, exponent⟩
  else none

def search (tie : Tie) (d : Double) (before : Int) : Nat → Nat → Decimal
  | 0, n => (d.onGrid tie (before - n)).getD ⟨0, 0⟩
  | left + 1, n => (d.onGrid tie (before - n)).getD (search tie d before left (n + 1))

/-- The shortest decimal that rounds to a finite number, without its sign; of several the
nearest. Only the upper neighbour among one-digit decimals can be ten units, since any longer one
would have been found among those. -/
def shortest (tie : Tie) (d : Double) : Decimal :=
  if d.isZero then ⟨0, 0⟩ else (search tie d d.digitsBeforePoint 17 1).carry

end DynSeq.Double
