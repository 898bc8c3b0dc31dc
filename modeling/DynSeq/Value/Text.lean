import DynSeq.Double.Text
import DynSeq.Text.Quoted
import DynSeq.Value

namespace DynSeq.Value

mutual
def text : Value → String
  | .null => "null"
  | .bool b => if b then "true" else "false"
  | .int n => n.toInt.repr
  | .float x => x.text
  | .string s => s
  | .array _ items => "[" ++ ", ".intercalate (texts items) ++ "]"
  | .function f => "<fn " ++ f.name ++ ">"
  | .error e => "<error " ++ e.text ++ ">"
def texts : List Value → List String
  | [] => []
  | v :: vs => text v :: texts vs
end

instance : ToString Value := ⟨text⟩

end DynSeq.Value

namespace DynSeq

def Callable.debug (f : Callable) : String :=
  "Callable(" ++ f.name ++ " " ++ f.signature.text ++ ")"

mutual
def Value.debug : Value → String
  | .null => "Null"
  | .bool b => "Bool(" ++ (if b then "true" else "false") ++ ")"
  | .int n => "Int(" ++ n.toInt.repr ++ ")"
  | .float x => "Float(" ++ Double.plain.text x ++ ")"
  | .string s => "String(" ++ Text.quoted s ++ ")"
  | .array element items =>
    "Array<" ++ element.text ++ ">([" ++ ", ".intercalate (Value.debugs items) ++ "])"
  | .function f => f.debug
  | .error e => "Error(" ++ e.text ++ ")"
def Value.debugs : List Value → List String
  | [] => []
  | v :: vs => v.debug :: Value.debugs vs
end

end DynSeq
