import DynSeq.Operation.Apply

namespace DynSeq.Operation

variable {σ : Type}

def primaryType : Operation → Ty
  | .findIndex => .int
  | _ => .any

def signature (op : Operation) : Signature :=
  ⟨[.any, .any], [op.primaryType, .error]⟩

def callable (op : Operation) (identity : Nat) : Callable :=
  ⟨op.name, op.signature, ⟨identity, .operation op⟩⟩

def onError : Operation → Value
  | .findIndex => .int notFound
  | _ => .null

def refuse (fresh : σ → Nat × σ) (op : Operation) (count : Nat) (s : σ) : List Value × σ :=
  let (identity, s') := fresh s
  ([op.onError, .error (.mk identity (.message
    s!"{op.name}() expects 2 arguments, got {count}"))], s')

/-- The answer of the operation to a call. A failure becomes a new error value. -/
def respond (fresh : σ → Nat × σ) (calls : Calls σ) (op : Operation) (args : List Value)
    (s : σ) : List Value × σ :=
  match args with
  | [seq, func] =>
    match op.apply calls seq func s with
    | (.ok result, s') => ([result, .null], s')
    | (.error failure, s') =>
      let (identity, s'') := fresh s'
      ([op.onError, .error (.mk identity (.failure failure))], s'')
  | _ => refuse fresh op args.length s

end DynSeq.Operation
