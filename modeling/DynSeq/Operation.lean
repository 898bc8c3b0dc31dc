namespace DynSeq

inductive Operation where
  | map
  | filter
  | find
  | findIndex
deriving DecidableEq, Inhabited

namespace Operation

def all : List Operation :=
  [.filter, .find, .findIndex, .map]

theorem mem_all (op : Operation) : op ∈ all := by
  cases op <;> decide

def name : Operation → String
  | .map => "map"
  | .filter => "filter"
  | .find => "find"
  | .findIndex => "findIndex"

theorem name_injective {a b : Operation} (h : a.name = b.name) : a = b := by
  cases a <;> cases b <;> first | rfl | exact absurd h (by decide)

def ofName? (name : String) : Option Operation :=
  all.find? (·.name == name)

theorem ofName?_name (op : Operation) : ofName? op.name = some op := by
  cases op <;> decide

def unknown (name : String) : String :=
  s!"unknown operation '{name}' (expected one of: filter, find, findIndex, map)"

end Operation

end DynSeq
