import DynSeq.Double

namespace DynSeq

/-- A number in a document: an integer that was written as one and fits 64 bits, signed or not, or
else a finite number. -/
inductive Json.Number where
  | integer (n : Int)
  | float (x : Double)
deriving DecidableEq, Inhabited

inductive Json where
  | null
  | bool (b : Bool)
  | number (n : Json.Number)
  | string (s : String)
  | array (items : List Json)
  | object (members : List (String × Json))
deriving Inhabited

end DynSeq
