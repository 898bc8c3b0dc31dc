import DynSeq.Value

namespace DynSeq

/-- A panic has a text, unless it carries something else, and is one occurrence: the error value
that reports it takes its identity. -/
structure Panic where
  text : Option String
  identity : Nat
deriving DecidableEq, Inhabited

def Panic.report (p : Panic) : ErrorValue :=
  .mk p.identity (.message (match p.text with
    | some text => s!"panicked: {text}"
    | none => "panicked"))

inductive Outcome (α : Type) where
  | returned (value : α)
  | panicked (panic : Panic)

def Outcome.map {α β : Type} (f : α → β) : Outcome α → Outcome β
  | .returned value => .returned (f value)
  | .panicked panic => .panicked panic

/-- How callables are called. A call gets the arguments and may change a state that all callables
share; nothing is assumed about what comes back. -/
abbrev Calls (σ : Type) := Callable → List Value → σ → Outcome (List Value) × σ

structure Exchange where
  callable : Callable
  args : List Value
  outcome : Outcome (List Value)

def Exchange.call (e : Exchange) : Callable × List Value :=
  (e.callable, e.args)

namespace Calls

variable {σ : Type} (calls : Calls σ)

/-- The same calls with a note of each, the latest first. -/
def noted {ν : Type} (note : Exchange → ν) : Calls (σ × List ν) :=
  fun f args (s, log) ↦
    let (outcome, s') := calls f args s
    (outcome, s', note ⟨f, args, outcome⟩ :: log)

def transcribed : Calls (σ × List Exchange) :=
  calls.noted id

def recorded : Calls (σ × List (Callable × List Value)) :=
  calls.noted Exchange.call

end Calls

end DynSeq
