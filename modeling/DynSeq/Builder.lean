import DynSeq.Value

namespace DynSeq

inductive Builder.Step where
  | param (t : Ty)
  | returns (t : Ty)
  | results (identity : Nat)
  | fallible (identity : Nat)
deriving DecidableEq

structure Builder where
  name : String
  params : List Ty
  results : List Ty
  implementation : Option Implementation

namespace Builder

def new (name : String) : Builder :=
  ⟨name, [], [], none⟩

/-- Types are added at the end. A function that can fail adds the error result there and then; the
last function given is the one that is kept. -/
def add (b : Builder) : Step → Builder
  | .param t => { b with params := b.params ++ [t] }
  | .returns t => { b with results := b.results ++ [t] }
  | .results identity => { b with implementation := some ⟨identity, .results⟩ }
  | .fallible identity =>
    { b with results := b.results ++ [.error], implementation := some ⟨identity, .fallible⟩ }

def addAll (b : Builder) (steps : List Step) : Builder :=
  steps.foldl add b

def missingImplementation (name : String) : String :=
  s!"Native function '{name}' missing implementation"

def build (b : Builder) : Except String Callable :=
  match b.implementation with
  | some implementation => .ok ⟨b.name, ⟨b.params, b.results⟩, implementation⟩
  | none => .error (missingImplementation b.name)

end Builder

end DynSeq
