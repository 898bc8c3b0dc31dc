import DynSeq.Run

namespace DynSeq.Operation

variable {σ : Type}

def purpose : Operation → Purpose
  | .map => .transform
  | _ => .predicate

/-- Accepts a sequence and a callable and runs one over the other; the sequence is judged first. -/
def runOn (calls : Calls σ) (op : Operation) (stop : Value → Bool) (seq func : Value) (s : σ) :
    Except Failure (Sequence × Contract × List Value) × σ :=
  match Sequence.ofValue seq with
  | .error failure => (.error failure, s)
  | .ok sequence =>
    match Contract.ofValue op.purpose func with
    | .error failure => (.error failure, s)
    | .ok contract =>
      let (results, s') := contract.run calls sequence stop s
      (results.map (sequence, contract, ·), s')

def never (_ : Value) : Bool := false

def widen (t : Ty) (v : Value) : Ty :=
  if v.assignableTo t then t else .any

def label (primary : Ty) (results : List Value) : Value :=
  .array (results.foldl widen primary) results

def runMap (calls : Calls σ) (seq func : Value) (s : σ) : Except Failure Value × σ :=
  let (ran, s') := runOn calls .map never seq func s
  (ran.map fun (_, contract, results) ↦ label contract.primary results, s')

def keep (items results : List Value) : List Value :=
  ((items.zip results).filter (·.2.isTruthy)).map (·.1)

/-- The element type of what is kept: that of the sequence, else what the predicate expects. -/
def keptType (seq : Sequence) (param : Option Ty) : Ty :=
  (seq.declared.or param).getD .any

def runFilter (calls : Calls σ) (seq func : Value) (s : σ) : Except Failure Value × σ :=
  let (ran, s') := runOn calls .filter never seq func s
  (ran.map fun (sequence, contract, results) ↦
    .array (keptType sequence contract.param) (keep sequence.items results), s')

def notFound : Int64 := -1

def firstTruthy (results : List Value) : Int64 :=
  match results.findIdx? (·.isTruthy) with
  | some index => Int64.ofNat index
  | none => notFound

def runFindIndex (calls : Calls σ) (seq func : Value) (s : σ) : Except Failure Int64 × σ :=
  let (ran, s') := runOn calls .findIndex Value.isTruthy seq func s
  (ran.map fun (_, _, results) ↦ firstTruthy results, s')

def itemFound (seq : Value) (position : Int64) : Value :=
  if position = notFound then .null
  else (seq.items?.bind (·[position.toUInt64.toNat]?)).getD .null

def runFind (calls : Calls σ) (seq func : Value) (s : σ) : Except Failure Value × σ :=
  let (position, s') := runFindIndex calls seq func s
  (position.map (itemFound seq), s')

def apply (calls : Calls σ) (op : Operation) (seq func : Value) (s : σ) :
    Except Failure Value × σ :=
  match op with
  | .map => runMap calls seq func s
  | .filter => runFilter calls seq func s
  | .find => runFind calls seq func s
  | .findIndex =>
    let (position, s') := runFindIndex calls seq func s
    (position.map .int, s')

end DynSeq.Operation
