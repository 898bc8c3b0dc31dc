import DynSeq.Contract
import DynSeq.Sequence

namespace DynSeq

inductive Passing where
  | nothing
  | each
  | checked (param : Ty)
deriving DecidableEq

namespace Passing

/-- A static element type decides for all items at once; without one, every item is looked at when
its turn comes. An empty sequence passes nothing that could be wrong. -/
def choose (seq : Sequence) : Option Ty → Except Failure Passing
  | none => .ok .nothing
  | some param =>
    match seq.static? with
    | none => .ok (.checked param)
    | some element =>
      if seq.items.isEmpty || element.assignableTo param then .ok .each
      else .error (.elementNotAssignable 0 param element.text)

def arguments (index : Nat) (item : Value) : Passing → Except Failure (List Value)
  | .nothing => .ok []
  | .each => .ok [item]
  | .checked param =>
    if item.assignableTo param then .ok [item]
    else .error (.elementNotAssignable index param item.typeName)

end Passing

namespace Contract

variable {σ : Type}

def step (calls : Calls σ) (c : Contract) (p : Passing) (index : Nat) (item : Value) (s : σ) :
    Except Failure Value × σ :=
  match p.arguments index item with
  | .error failure => (.error failure, s)
  | .ok args =>
    let (outcome, s') := calls c.callable args s
    (c.primaryOf index outcome, s')

/-- The first results for the items from position `index` on, in order, up to and including the
first on which `stop` holds. The first failure ends everything. -/
def collect (calls : Calls σ) (c : Contract) (p : Passing) (stop : Value → Bool) :
    Nat → List Value → σ → Except Failure (List Value) × σ
  | _, [], s => (.ok [], s)
  | index, item :: rest, s =>
    match step calls c p index item s with
    | (.error failure, s') => (.error failure, s')
    | (.ok result, s') =>
      if stop result then (.ok [result], s')
      else
        let (results, s'') := collect calls c p stop (index + 1) rest s'
        (results.map (result :: ·), s'')

def run (calls : Calls σ) (c : Contract) (seq : Sequence) (stop : Value → Bool) (s : σ) :
    Except Failure (List Value) × σ :=
  match Passing.choose seq c.param with
  | .error failure => (.error failure, s)
  | .ok p => collect calls c p stop 0 seq.items s

end Contract

end DynSeq
