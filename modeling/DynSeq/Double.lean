namespace DynSeq

/-- A double precision number, given by the 64 bits of its binary interchange form: a sign, eleven
bits of exponent and fifty-two of fraction. -/
structure Double where
  bits : UInt64
deriving DecidableEq, Inhabited

namespace Double

def isNegative (d : Double) : Bool :=
  1 <<< 63 ≤ d.bits.toNat

def magnitude (d : Double) : Nat :=
  d.bits.toNat % (1 <<< 63)

def exponentField (d : Double) : Nat :=
  d.magnitude >>> 52

def fraction (d : Double) : Nat :=
  d.bits.toNat % (1 <<< 52)

def isFinite (d : Double) : Bool :=
  d.exponentField < 2047

def isNaN (d : Double) : Bool :=
  !d.isFinite && d.fraction != 0

def isZero (d : Double) : Bool :=
  d.magnitude == 0

/-- A finite number is its significand times two to its scale, up to sign. -/
def significand (d : Double) : Nat :=
  if d.exponentField = 0 then d.fraction else (1 <<< 52) + d.fraction

def scale (d : Double) : Int :=
  (max d.exponentField 1 : Nat) - 1075

def ratio (d : Double) : Nat × Nat :=
  (d.significand <<< d.scale.toNat, 1 <<< (-d.scale).toNat)

def isIntegral (d : Double) : Bool :=
  d.isFinite && d.ratio.1 % d.ratio.2 == 0

/-- Numeric equality: what is not a number equals nothing, and both zeros are equal. -/
def beq (a b : Double) : Bool :=
  !a.isNaN && !b.isNaN && (a.bits == b.bits || a.isZero && b.isZero)

theorem beq_self_iff (d : Double) : d.beq d = true ↔ d.isNaN = false := by
  simp [beq]

theorem beq_comm (a b : Double) : a.beq b = b.beq a := by
  simp only [beq, Bool.and_comm (!a.isNaN), Bool.and_comm a.isZero, Bool.beq_comm (a := a.bits)]

def ofParts (negative : Bool) (magnitude : Nat) : Double :=
  ⟨UInt64.ofNat ((if negative then 1 <<< 63 else 0) + magnitude)⟩

def infinity : Nat :=
  2047 <<< 52

end Double

end DynSeq
