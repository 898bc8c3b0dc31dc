import DynSeq.Demo
import DynSeq.Double
import DynSeq.Error
import DynSeq.Operation

namespace DynSeq

/-- What runs when a callable is called: a function of the surrounding program, which gives either
a list of results or one value or error, a demo function, or an operation. -/
inductive Routine where
  | results
  | fallible
  | demo (function : Demo)
  | operation (op : Operation)
deriving DecidableEq, Inhabited

/-- A routine made once. Copies share the identity, and with it whatever the routine remembers. -/
structure Implementation where
  identity : Nat
  routine : Routine
deriving DecidableEq, Inhabited

/-- A function as a value. The signature is what its maker declares; nothing holds the
implementation to it. -/
structure Callable where
  name : String
  signature : Signature
  implementation : Implementation
deriving DecidableEq, Inhabited

/-- The values that operations work on. The items of an array need not fit its declared element
type. -/
inductive Value where
  | null
  | bool (b : Bool)
  | int (n : Int64)
  | float (x : Double)
  | string (s : String)
  | array (element : Ty) (items : List Value)
  | function (f : Callable)
  | error (e : ErrorValue)
deriving Inhabited

namespace Value

def kindName : Value → String
  | .null => "null"
  | .bool _ => "bool"
  | .int _ => "int"
  | .float _ => "float"
  | .string _ => "string"
  | .array _ _ => "array"
  | .function _ => "function"
  | .error _ => "error"

def runtimeType? : Value → Option Ty
  | .null => none
  | .bool _ => some .bool
  | .int _ => some .int
  | .float _ => some .float
  | .string _ => some .string
  | .array element _ => some (.array element)
  | .function f => some f.signature.toTy
  | .error _ => some .error

def typeName (v : Value) : String :=
  match v.runtimeType? with
  | some t => t.text
  | none => "null"

def assignableTo (v : Value) (target : Ty) : Bool :=
  match v.runtimeType? with
  | some t => t.assignableTo target
  | none => target.isNullable

def isTruthy : Value → Bool
  | .bool true => true
  | _ => false

def isNull : Value → Bool
  | .null => true
  | _ => false

def items? : Value → Option (List Value)
  | .array _ items => some items
  | _ => none

def callable? : Value → Option Callable
  | .function f => some f
  | _ => none

def int? : Value → Option Int64
  | .int n => some n
  | _ => none

def push? (v item : Value) : Option Value :=
  match v with
  | .array element items => some (.array element (items ++ [item]))
  | _ => none

def itemAt (items : List Value) (index : Nat) : Except String Value :=
  match items[index]? with
  | some item => .ok item
  | none =>
    .error s!"index out of bounds: the len is {items.length} but the index is {index}"

mutual
/-- Data are equal by content, an array with its element type; functions and errors are equal when
they are copies of the same one. -/
def beq : Value → Value → Bool
  | .null, .null => true
  | .bool a, .bool b => a == b
  | .int a, .int b => a == b
  | .float a, .float b => a.beq b
  | .string a, .string b => a == b
  | .array s as, .array t bs => s == t && beqs as bs
  | .function f, .function g => f.implementation.identity == g.implementation.identity
  | .error a, .error b => a.same b
  | _, _ => false
def beqs : List Value → List Value → Bool
  | [], [] => true
  | a :: as, b :: bs => beq a b && beqs as bs
  | _, _ => false
end

instance : BEq Value := ⟨beq⟩

theorem assignableTo_any (v : Value) : v.assignableTo .any = true := by
  cases v <;> simp [assignableTo, runtimeType?, Ty.assignableTo_any, Ty.isNullable]

theorem assignableTo_of_runtimeType {v : Value} {t : Ty} (h : v.runtimeType? = some t) :
    v.assignableTo t = true := by
  simp [assignableTo, h, Ty.assignableTo_refl]

theorem assignableTo_trans {v : Value} {s t : Ty} (hv : v.assignableTo s = true)
    (hst : s.assignableTo t = true) : v.assignableTo t = true := by
  rcases Ty.assignableTo_iff.1 hst with rfl | rfl
  · exact hv
  · exact assignableTo_any v

end Value

end DynSeq
