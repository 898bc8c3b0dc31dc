namespace DynSeq

inductive Demo where
  | inc
  | odd
  | never
deriving DecidableEq, Inhabited

namespace Demo

def all : List Demo :=
  [.never, .inc, .odd]

theorem mem_all (d : Demo) : d ∈ all := by
  cases d <;> decide

def name : Demo → String
  | .inc => "inc"
  | .odd => "odd"
  | .never => "false"

def ofName? (name : String) : Option Demo :=
  all.find? (·.name == name)

theorem ofName?_name (d : Demo) : ofName? d.name = some d := by
  cases d <;> decide

end Demo

end DynSeq
