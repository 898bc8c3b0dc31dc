import DynSeq.Json
import DynSeq.Ty

namespace DynSeq

mutual
def Ty.toJson : Ty → Json
  | .any => .string "any"
  | .bool => .string "bool"
  | .int => .string "int"
  | .float => .string "float"
  | .string => .string "string"
  | .error => .string "error"
  | .array e => .object [("array", e.toJson)]
  | .function ps rs =>
    .object [("function", .object
      [("params", .array (Ty.toJsons ps)), ("results", .array (Ty.toJsons rs))])]
def Ty.toJsons : List Ty → List Json
  | [] => []
  | t :: ts => t.toJson :: Ty.toJsons ts
end

def Ty.ofName? : String → Option Ty
  | "any" => some .any
  | "bool" => some .bool
  | "int" => some .int
  | "float" => some .float
  | "string" => some .string
  | "error" => some .error
  | _ => none

mutual
/-- Reads a type from a document. A name may also be the only key of an object that holds null. -/
def Ty.ofJson? : Json → Option Ty
  | .string name => Ty.ofName? name
  | .object [("array", element)] => (Ty.ofJson? element).map .array
  | .object [("function", signature)] => (Signature.ofJson? signature).map Signature.toTy
  | .object [(name, .null)] => Ty.ofName? name
  | _ => none
def Ty.ofJsons? : List Json → Option (List Ty)
  | [] => some []
  | json :: rest => do
    let t ← Ty.ofJson? json
    let ts ← Ty.ofJsons? rest
    some (t :: ts)
/-- Reads a signature from an object that has both lists, whatever else it has, or from the two
lists alone. -/
def Signature.ofJson? : Json → Option Signature
  | .object members =>
    match Signature.ofMembers? members with
    | (some (some params), some (some results)) => some ⟨params, results⟩
    | _ => none
  | .array [.array params, .array results] => do
    let ps ← Ty.ofJsons? params
    let rs ← Ty.ofJsons? results
    some ⟨ps, rs⟩
  | _ => none
def Signature.ofMembers? :
    List (String × Json) → Option (Option (List Ty)) × Option (Option (List Ty))
  | [] => (none, none)
  | (key, value) :: rest =>
    let types := match value with
      | .array items => Ty.ofJsons? items
      | _ => none
    let (params, results) := Signature.ofMembers? rest
    if key = "params" then (some types, results)
    else if key = "results" then (params, some types)
    else (params, results)
end

def Signature.toMembers (s : Signature) : List (String × Json) :=
  [("params", .array (Ty.toJsons s.params)), ("results", .array (Ty.toJsons s.results))]

def Signature.toJson (s : Signature) : Json :=
  .object s.toMembers

end DynSeq
