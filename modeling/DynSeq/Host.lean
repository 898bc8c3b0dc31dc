import DynSeq.Demo.Run
import DynSeq.Operation.Callable

namespace DynSeq

/-- The program around the library. It keeps a state, hands out identities, and runs the functions
it made, which it knows by the identity of their implementation. -/
structure Host (σ : Type) where
  fresh : σ → Nat × σ
  results : Nat → List Value → σ → Outcome (List Value) × σ
  fallible : Nat → List Value → σ → Outcome (Except ErrorValue Value) × σ

namespace Host

variable {σ : Type}

def twoResults : Except ErrorValue Value → List Value
  | .ok v => [v, .null]
  | .error e => [.null, .error e]

def runWith (h : Host σ) (operation : Operation → List Value → σ → List Value × σ)
    (i : Implementation) (args : List Value) (s : σ) : Outcome (List Value) × σ :=
  match i.routine with
  | .results => h.results i.identity args s
  | .fallible =>
    let (outcome, s') := h.fallible i.identity args s
    (outcome.map twoResults, s')
  | .demo d => (.returned (d.run args), s)
  | .operation op =>
    let (results, s') := operation op args s
    (.returned results, s')

/-- The calls that an operation makes. They pass at most one argument, so that an operation which
is itself called by an operation only counts its arguments. -/
def innerCalls (h : Host σ) : Calls σ :=
  fun f ↦ h.runWith (fun op args ↦ op.refuse h.fresh args.length) f.implementation

def calls (h : Host σ) : Calls σ :=
  fun f ↦ h.runWith (fun op ↦ op.respond h.fresh h.innerCalls) f.implementation

def alone : Host Nat where
  fresh next := (next, next + 1)
  results _ _ next := (.returned [], next)
  fallible _ _ next := (.returned (.ok .null), next)

end Host

end DynSeq
