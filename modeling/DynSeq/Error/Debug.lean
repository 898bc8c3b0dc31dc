import DynSeq.Error
import DynSeq.Text.Quoted

namespace DynSeq

def debugFields (fields : List (String × String)) : String :=
  " \x7b " ++ ", ".intercalate (fields.map fun (name, text) ↦ name ++ ": " ++ text) ++ " \x7d"

mutual
def Ty.debug : Ty → String
  | .any => "Any"
  | .bool => "Bool"
  | .int => "Int"
  | .float => "Float"
  | .string => "String"
  | .error => "Error"
  | .array e => "Array(" ++ e.debug ++ ")"
  | .function ps rs =>
    "Function(Signature" ++ debugFields
      [("params", "[" ++ ", ".intercalate (Ty.debugs ps) ++ "]"),
        ("results", "[" ++ ", ".intercalate (Ty.debugs rs) ++ "]")] ++ ")"
def Ty.debugs : List Ty → List String
  | [] => []
  | t :: ts => t.debug :: Ty.debugs ts
end

def debugIndex : Option Nat → String
  | none => "None"
  | some index => s!"Some({index})"

mutual
def Failure.debug : Failure → String
  | .notASlice found => "NotASlice" ++ debugFields [("found", Text.quoted found)]
  | .notAFunction found => "NotAFunction" ++ debugFields [("found", Text.quoted found)]
  | .badInputArity found => "BadInputArity" ++ debugFields [("found", found.repr)]
  | .badOutputArity found index =>
    "BadOutputArity" ++ debugFields [("found", found.repr), ("index", debugIndex index)]
  | .firstReturnNotBool found => "FirstReturnNotBool" ++ debugFields [("found", found.debug)]
  | .secondReturnNotError found index =>
    "SecondReturnNotError" ++
      debugFields [("found", Text.quoted found), ("index", debugIndex index)]
  | .elementNotAssignable index expected found =>
    "ElementNotAssignable" ++ debugFields
      [("index", index.repr), ("expected", expected.debug), ("found", Text.quoted found)]
  | .callableFailed index source =>
    "CallableFailed" ++ debugFields [("index", index.repr), ("source", source.debug)]
def ErrorValue.debug : ErrorValue → String
  | .mk _ cause => "HostError(" ++ cause.debug ++ ")"
def Cause.debug : Cause → String
  | .message text => "Message(" ++ Text.quoted text ++ ")"
  | .failure failure => failure.debug
  | .wrapped error => error.debug
  | .foreign _ debug _ => debug
end

end DynSeq
