import DynSeq.Double.Rounding
import DynSeq.Json

namespace DynSeq.Json.Number

def digitValue (c : Char) : Nat :=
  c.toNat - '0'.toNat

def absorb (significand taken : Nat) : List Char → Nat × Nat
  | [] => (significand, taken)
  | c :: cs =>
    let next := 10 * significand + digitValue c
    if next < UInt64.size then absorb next (taken + 1) cs else (significand, taken)

/-- A number as written: a sign, the digits before the point, the digits after it, and the value
of the exponent; a part that is not there is `none`. -/
structure Written where
  negative : Bool
  whole : List Char
  decimals : Option (List Char)
  exponent : Option Int

def powerOfTen (n : Nat) : Double :=
  Double.ofNat (Nat.pow 10 n)

def scaleDown (x : Double) (exponent : Nat) : Double :=
  if exponent ≤ 308 then Double.divAbs x (powerOfTen exponent)
  else if x.isZero then x
  else scaleDown (Double.divAbs x (powerOfTen 308)) (exponent - 308)
termination_by exponent

/-- A significand scaled by a power of ten, without sign: the significand is rounded first, and
the result of every multiplication or division again. Nothing stands for what is too large. -/
def scaled (significand : Nat) (exponent : Int) : Option Double :=
  let x := Double.ofNat significand
  if exponent < 0 then some (scaleDown x exponent.natAbs)
  else if significand = 0 then some x
  else if 308 < exponent then none
  else
    let y := Double.mulAbs x (powerOfTen exponent.toNat)
    if y.isFinite then some y else none

def floating (negative : Bool) (significand : Nat) (exponent : Int) : Option Number :=
  (scaled significand exponent).map fun x ↦ .float (Double.ofParts negative x.magnitude)

/-- A number without decimals and exponent is an integer if it fits 64 bits with a sign or without;
a negative zero does not. -/
def whole (negative : Bool) (n : Nat) : Option Number :=
  if !negative then some (.integer n)
  else if n = 0 ∨ 1 <<< 63 < n then floating true n 0
  else some (.integer (-(n : Int)))

def ofWritten (w : Written) : Option Number :=
  let (significand, taken) := absorb 0 0 w.whole
  let dropped : Int := w.whole.length - taken
  if dropped = 0 ∧ w.decimals = none ∧ w.exponent = none then whole w.negative significand
  else
    let (significand, places) := absorb significand 0 (w.decimals.getD [])
    floating w.negative significand (dropped - places + w.exponent.getD 0)

end DynSeq.Json.Number
