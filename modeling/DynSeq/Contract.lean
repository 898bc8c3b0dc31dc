import DynSeq.Call

namespace DynSeq

inductive Purpose where
  | transform
  | predicate
deriving DecidableEq

/-- A callable accepted by an operation: the type of its only parameter, if it has one, the type
of its first result, and whether a second result is kept for errors. -/
structure Contract where
  callable : Callable
  param : Option Ty
  primary : Ty
  hasErrorChannel : Bool

namespace Contract

def arityIn (c : Contract) : Nat :=
  if c.param.isSome then 1 else 0

def outCount (c : Contract) : Nat :=
  if c.hasErrorChannel then 2 else 1

def param? : List Ty → Except Failure (Option Ty)
  | [] => .ok none
  | [only] => .ok (some only)
  | many => .error (.badInputArity many.length)

def results? : List Ty → Except Failure (Ty × Bool)
  | [primary] => .ok (primary, false)
  | [primary, second] =>
    if second.assignableTo .error then .ok (primary, true)
    else .error (.secondReturnNotError second.text none)
  | other => .error (.badOutputArity other.length none)

def suits (purpose : Purpose) (primary : Ty) : Bool :=
  purpose = .transform || primary.assignableTo .bool

/-- Checks, in this order: that the value is a function, the number of parameters, the number of
results, the error result, and that a predicate answers with a bool. -/
def ofValue (purpose : Purpose) (v : Value) : Except Failure Contract := do
  match v with
  | .function f =>
    let param ← param? f.signature.params
    let (primary, hasErrorChannel) ← results? f.signature.results
    if suits purpose primary then .ok ⟨f, param, primary, hasErrorChannel⟩
    else .error (.firstReturnNotBool primary)
  | other => .error (.notAFunction other.kindName)

def primaryOf (c : Contract) (index : Nat) : Outcome (List Value) → Except Failure Value
  | .panicked panic => .error (.callableFailed index panic.report)
  | .returned results =>
    if results.length ≠ c.outCount then .error (.badOutputArity results.length (some index))
    else match results with
      | _ :: .error e :: _ => .error (.callableFailed index e)
      | primary :: .null :: _ => .ok primary
      | _ :: other :: _ => .error (.secondReturnNotError other.typeName (some index))
      | [primary] => .ok primary
      | [] => .ok .null

end Contract

end DynSeq
