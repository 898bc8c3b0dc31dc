import DynSeq.Conversion
import DynSeq.Double.Rounding
import DynSeq.Double.Text
import DynSeq.Json

namespace DynSeq.Value

def ofNumber : Json.Number → Value
  | .integer n =>
    if Int64.minValue.toInt ≤ n ∧ n ≤ Int64.maxValue.toInt then .int (Int64.ofInt n)
    else .float (Double.ofInt n)
  | .float x => .float x

def commonType : List Value → Ty
  | [] => .any
  | v :: vs =>
    match v.runtimeType? with
    | some t => if vs.all (·.runtimeType? == some t) then t else .any
    | none => .any

mutual
/-- The value of a document. Arrays declare the type that their items have in common, or `any` if
they are to be left untyped. Objects have no value. -/
def ofJson (untyped : Bool) : Json → Except ConversionError Value
  | .null => .ok .null
  | .bool b => .ok (.bool b)
  | .number n => .ok (ofNumber n)
  | .string s => .ok (.string s)
  | .array items => do
    let values ← ofJsons untyped items
    return .array (if untyped then .any else commonType values) values
  | .object _ => .error (.unrepresentable "object" "value")
def ofJsons (untyped : Bool) : List Json → Except ConversionError (List Value)
  | [] => .ok []
  | json :: rest => do
    let v ← ofJson untyped json
    let vs ← ofJsons untyped rest
    return v :: vs
end

mutual
def toJson : Value → Except ConversionError Json
  | .null => .ok .null
  | .bool b => .ok (.bool b)
  | .int n => .ok (.number (.integer n.toInt))
  | .float x =>
    if x.isFinite then .ok (.number (.float x))
    else .error (.unrepresentable (Double.plain.text x) "JSON")
  | .string s => .ok (.string s)
  | .array _ items => do return .array (← toJsons items)
  | .function f => .error (.unrepresentable s!"function {f.name}" "JSON")
  | .error e => .ok (.string e.text)
def toJsons : List Value → Except ConversionError (List Json)
  | [] => .ok []
  | v :: vs => do
    let json ← toJson v
    let jsons ← toJsons vs
    return json :: jsons
end

end DynSeq.Value
