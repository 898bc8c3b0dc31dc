import DynSeq.Demo.Run
import DynSeq.Operation.Callable
import Std.Data.TreeMap.Basic

namespace DynSeq

abbrev FunctionTable := Std.TreeMap String Value

namespace FunctionTable

def ofCallables (first : Nat) (makers : List (String × (Nat → Callable))) : FunctionTable :=
  .ofList (makers.mapIdx fun i (name, make) ↦ (name, Value.function (make (first + i))))

def operations (first : Nat) : FunctionTable :=
  ofCallables first (Operation.all.map fun op ↦ (op.name, op.callable))

def demos (first : Nat) : FunctionTable :=
  ofCallables first (Demo.all.map fun d ↦ (d.name, d.callable))

def merge (table overwriteWith : FunctionTable) : FunctionTable :=
  table.insertMany overwriteWith

def install (first : Nat) (table : FunctionTable) : FunctionTable :=
  table.merge (operations first)

def listed (first : Nat) : FunctionTable :=
  (operations first).merge (demos (first + Operation.all.length))

def listedCount : Nat :=
  Operation.all.length + Demo.all.length

end FunctionTable

end DynSeq
