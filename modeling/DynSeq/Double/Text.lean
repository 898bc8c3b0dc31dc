import DynSeq.Double.Shortest

namespace DynSeq.Double

structure Layout where
  tie : Tie
  positional : Option (Int × Int)
  keepPoint : Bool

def plain : Layout := ⟨.up, none, false⟩

def json : Layout := ⟨.even, some (-5, 15), true⟩

def zeros (n : Nat) : String :=
  "".pushn '0' n

def positionalText (digits : String) (before : Int) (keepPoint : Bool) : String :=
  let length := digits.length
  if before ≤ 0 then "0." ++ zeros (-before).toNat ++ digits
  else if before < length then
    String.ofList (digits.toList.take before.toNat) ++ "." ++
      String.ofList (digits.toList.drop before.toNat)
  else digits ++ zeros (before.toNat - length) ++ if keepPoint then ".0" else ""

def exponentText (digits : String) (exponent : Int) : String :=
  let head := String.ofList (digits.toList.take 1)
  let tail := String.ofList (digits.toList.drop 1)
  let sign := if exponent < 0 then "-" else "+"
  head ++ (if tail.isEmpty then "" else "." ++ tail) ++ "e" ++ sign ++ exponent.natAbs.repr

def Layout.write (l : Layout) (x : Decimal) : String :=
  let digits := x.digits.repr
  let before : Int := if x.digits = 0 then 1 else digits.length + x.exponent
  let isPositional := l.positional.all fun (low, high) ↦ low ≤ before - 1 && before - 1 ≤ high
  if isPositional then positionalText digits before l.keepPoint
  else exponentText digits (before - 1)

def Layout.text (l : Layout) (d : Double) : String :=
  let sign := if d.isNegative then "-" else ""
  if d.isNaN then "NaN"
  else if d.isFinite then sign ++ l.write (d.shortest l.tie)
  else sign ++ "inf"

/-- The text of a value: a whole number is written out exactly, with a point and a zero, any other
in the plain layout. -/
def text (d : Double) : String :=
  if d.isIntegral then
    (if d.isNegative then "-" else "") ++ (d.ratio.1 / d.ratio.2).repr ++ ".0"
  else plain.text d

end DynSeq.Double
