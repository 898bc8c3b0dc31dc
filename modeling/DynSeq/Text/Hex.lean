namespace DynSeq.Text

def hexDigit? (c : Char) : Option Nat :=
  if c.isDigit then some (c.toNat - '0'.toNat)
  else if 'a' ≤ c && c ≤ 'f' then some (c.toNat - 'a'.toNat + 10)
  else if 'A' ≤ c && c ≤ 'F' then some (c.toNat - 'A'.toNat + 10)
  else none

def hexValue? (cs : List Char) : Option Nat :=
  cs.foldl (fun n c ↦ do return 16 * (← n) + (← hexDigit? c)) (some 0)

def readHex (count : Nat) (cs : List Char) : Option (Nat × List Char) :=
  if cs.length < count then none
  else (hexValue? (cs.take count)).map (·, cs.drop count)

def hex (width n : Nat) : String :=
  let digits := Nat.toDigits 16 n
  String.ofList (List.replicate (width - digits.length) '0' ++ digits)

end DynSeq.Text
