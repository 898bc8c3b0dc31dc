import DynSeq.Value

namespace DynSeq

inductive ConversionError where
  | typeMismatch (expected found : String)
  | arrayElementTypeMismatch (index : Nat) (expected found : String)
  | unrepresentable (what target : String)
deriving DecidableEq

namespace ConversionError

def message : ConversionError → String
  | .typeMismatch expected found => s!"Type mismatch: expected {expected}, found {found}"
  | .arrayElementTypeMismatch index expected found =>
    s!"Array element type mismatch at index {index}: expected {expected}, found {found}"
  | .unrepresentable what target => s!"Cannot represent {what} as {target}"

/-- A mismatch of an item as the array that holds it reports it. What happened deeper in the item
is reported as it is. -/
def atIndex (index : Nat) : ConversionError → ConversionError
  | .typeMismatch expected found => .arrayElementTypeMismatch index expected found
  | other => other

end ConversionError

inductive Shape where
  | int
  | float
  | bool
  | string
  | null
  | value
  | option (shape : Shape)
  | list (item : Shape)
deriving DecidableEq, Inhabited

namespace Shape

abbrev Data : Shape → Type
  | .int => Int64
  | .float => Double
  | .bool => Bool
  | .string => String
  | .null => Unit
  | .value => Value
  | .option shape => Option shape.Data
  | .list item => List item.Data

def static? : Shape → Option Ty
  | .int => some .int
  | .float => some .float
  | .bool => some .bool
  | .string => some .string
  | .value => some .any
  | .null | .option _ => none
  | .list item => item.static?.map .array

def decodeItems {α : Type} (decode : Value → Except ConversionError α) :
    Nat → List Value → Except ConversionError (List α)
  | _, [] => .ok []
  | index, item :: rest => do
    let x ← (decode item).mapError (·.atIndex index)
    let xs ← decodeItems decode (index + 1) rest
    return x :: xs

/-- Reads data of a shape from a value. Nothing is converted on the way; null is an absent option,
and any array is a list, whatever it declares. -/
def decode : (shape : Shape) → Value → Except ConversionError shape.Data
  | .int, .int n => .ok n
  | .int, v => .error (.typeMismatch "int" v.typeName)
  | .float, .float x => .ok x
  | .float, v => .error (.typeMismatch "float" v.typeName)
  | .bool, .bool b => .ok b
  | .bool, v => .error (.typeMismatch "bool" v.typeName)
  | .string, .string s => .ok s
  | .string, v => .error (.typeMismatch "string" v.typeName)
  | .null, .null => .ok ()
  | .null, v => .error (.typeMismatch "null" v.typeName)
  | .value, v => .ok v
  | .option _, .null => .ok none
  | .option shape, v => (decode shape v).map some
  | .list item, .array _ items => decodeItems (decode item) 0 items
  | .list _, v => .error (.typeMismatch "array" v.typeName)

def encode : (shape : Shape) → shape.Data → Value
  | .int, n => .int n
  | .float, x => .float x
  | .bool, b => .bool b
  | .string, s => .string s
  | .null, () => .null
  | .value, v => v
  | .option _, none => .null
  | .option shape, some x => encode shape x
  | .list item, xs => .array (item.static?.getD .any) (xs.map (encode item))

end Shape

end DynSeq
