import DynSeq.Ty

namespace DynSeq

mutual
/-- An error as a value: what it reports, and the identity by which copies of it are recognised. -/
inductive ErrorValue where
  | mk (identity : Nat) (cause : Cause)
/-- What an error value reports: a text, a failed operation, another error value, or an error of
the surrounding program with its debugging text and the texts of its sources. -/
inductive Cause where
  | message (text : String)
  | failure (failure : Failure)
  | wrapped (error : ErrorValue)
  | foreign (text debug : String) (sources : List String)
inductive Failure where
  | notASlice (found : String)
  | notAFunction (found : String)
  | badInputArity (found : Nat)
  | badOutputArity (found : Nat) (index : Option Nat)
  | firstReturnNotBool (found : Ty)
  | secondReturnNotError (found : String) (index : Option Nat)
  | elementNotAssignable (index : Nat) (expected : Ty) (found : String)
  | callableFailed (index : Nat) (source : ErrorValue)
end

deriving instance DecidableEq for ErrorValue, Cause, Failure

instance : Inhabited ErrorValue := ⟨.mk 0 (.message "")⟩

inductive FailureKind where
  | notASlice
  | notAFunction
  | badInputArity
  | badOutputArity
  | firstReturnNotBool
  | secondReturnNotError
  | elementNotAssignable
  | callableFailed
deriving DecidableEq

namespace FailureKind

def all : List FailureKind :=
  [.notASlice, .notAFunction, .badInputArity, .badOutputArity, .firstReturnNotBool,
    .secondReturnNotError, .elementNotAssignable, .callableFailed]

theorem mem_all (k : FailureKind) : k ∈ all := by
  cases k <;> decide

def name : FailureKind → String
  | .notASlice => "NotASlice"
  | .notAFunction => "NotAFunction"
  | .badInputArity => "BadInputArity"
  | .badOutputArity => "BadOutputArity"
  | .firstReturnNotBool => "FirstReturnNotBool"
  | .secondReturnNotError => "SecondReturnNotError"
  | .elementNotAssignable => "ElementNotAssignable"
  | .callableFailed => "CallableFailed"

end FailureKind

namespace Failure

def kind : Failure → FailureKind
  | .notASlice _ => .notASlice
  | .notAFunction _ => .notAFunction
  | .badInputArity _ => .badInputArity
  | .badOutputArity _ _ => .badOutputArity
  | .firstReturnNotBool _ => .firstReturnNotBool
  | .secondReturnNotError _ _ => .secondReturnNotError
  | .elementNotAssignable _ _ _ => .elementNotAssignable
  | .callableFailed _ _ => .callableFailed

def index? : Failure → Option Nat
  | .badOutputArity _ index => index
  | .secondReturnNotError _ index => index
  | .elementNotAssignable index _ _ => some index
  | .callableFailed index _ => some index
  | _ => none

def atItem : Option Nat → String
  | none => ""
  | some index => s!" from item {index}"

end Failure

mutual
def ErrorValue.text : ErrorValue → String
  | .mk _ cause => cause.text
def Cause.text : Cause → String
  | .message text => text
  | .failure failure => failure.message
  | .wrapped error => error.text
  | .foreign text _ _ => text
def Failure.message : Failure → String
  | .notASlice found => s!"expected first parameter to be an array, not {found}"
  | .notAFunction found => s!"expected second parameter to be a function, not {found}"
  | .badInputArity found =>
    s!"expected second parameter function to take 0 or 1 parameters, got {found}"
  | .badOutputArity found index =>
    s!"expected return with 1 or 2 values of types (any, error?), got {found}" ++
      Failure.atItem index
  | .firstReturnNotBool found =>
    s!"expected first return type to be assignable to bool, instead got {found}"
  | .secondReturnNotError found index =>
    s!"expected second return type to be assignable to error, instead got {found}" ++
      Failure.atItem index
  | .elementNotAssignable index expected found =>
    s!"item {index} not assignable to {expected}: found {found}"
  | .callableFailed index source => s!"f execution number {index} returned: {source.text}"
end

mutual
/-- The texts of the errors behind an error, nearest first. Wrapping adds none. -/
def ErrorValue.sources : ErrorValue → List String
  | .mk _ cause => cause.sources
def Cause.sources : Cause → List String
  | .message _ => []
  | .failure failure => failure.sources
  | .wrapped error => error.sources
  | .foreign _ _ sources => sources
def Failure.sources : Failure → List String
  | .callableFailed _ source => source.text :: source.sources
  | _ => []
end

namespace ErrorValue

def identity : ErrorValue → Nat
  | .mk identity _ => identity

def cause : ErrorValue → Cause
  | .mk _ cause => cause

def same (a b : ErrorValue) : Bool :=
  a.identity == b.identity

def failure? : ErrorValue → Option Failure
  | .mk _ (.failure failure) => some failure
  | _ => none

end ErrorValue

end DynSeq
