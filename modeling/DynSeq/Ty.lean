namespace DynSeq

/-- The types a value can have or be required to have. `any` and `error` are interface types:
what an array of them holds is known only item by item. -/
inductive Ty where
  | any
  | bool
  | int
  | float
  | string
  | error
  | array (element : Ty)
  | function (params results : List Ty)
deriving Inhabited

structure Signature where
  params : List Ty
  results : List Ty
deriving Inhabited

namespace Ty

mutual
def beq : Ty → Ty → Bool
  | .any, .any => true
  | .bool, .bool => true
  | .int, .int => true
  | .float, .float => true
  | .string, .string => true
  | .error, .error => true
  | .array a, .array b => beq a b
  | .function ps rs, .function qs ss => beqs ps qs && beqs rs ss
  | _, _ => false
def beqs : List Ty → List Ty → Bool
  | [], [] => true
  | a :: as, b :: bs => beq a b && beqs as bs
  | _, _ => false
end

mutual
theorem beq_eq_true_iff : ∀ a b : Ty, beq a b = true ↔ a = b
  | .array a, b => by cases b <;> simp [beq, beq_eq_true_iff a]
  | .function ps rs, b => by
    cases b <;> simp [beq, beqs_eq_true_iff ps, beqs_eq_true_iff rs]
  | .any, b => by cases b <;> simp [beq]
  | .bool, b => by cases b <;> simp [beq]
  | .int, b => by cases b <;> simp [beq]
  | .float, b => by cases b <;> simp [beq]
  | .string, b => by cases b <;> simp [beq]
  | .error, b => by cases b <;> simp [beq]
theorem beqs_eq_true_iff : ∀ as bs : List Ty, beqs as bs = true ↔ as = bs
  | [], bs => by cases bs <;> simp [beqs]
  | a :: as, bs => by cases bs <;> simp [beqs, beq_eq_true_iff a, beqs_eq_true_iff as]
end

instance : DecidableEq Ty := fun a b ↦ decidable_of_iff (beq a b = true) (beq_eq_true_iff a b)

/-- Every type fits `any`; otherwise only the same type fits, without numeric conversion. -/
def assignableTo (a target : Ty) : Bool :=
  a == target || target == .any

def isInterface : Ty → Bool
  | .any | .error => true
  | _ => false

def isNullable : Ty → Bool
  | .any | .error | .array _ | .function _ _ => true
  | _ => false

def element? : Ty → Option Ty
  | .array e => some e
  | _ => none

def signature? : Ty → Option Signature
  | .function ps rs => some ⟨ps, rs⟩
  | _ => none

theorem assignableTo_refl (a : Ty) : a.assignableTo a = true := by
  simp [assignableTo]

theorem assignableTo_any (a : Ty) : a.assignableTo .any = true := by
  simp [assignableTo]

theorem assignableTo_iff {a b : Ty} : a.assignableTo b = true ↔ a = b ∨ b = .any := by
  simp [assignableTo]

theorem assignableTo_trans {a b c : Ty} (hab : a.assignableTo b = true)
    (hbc : b.assignableTo c = true) : a.assignableTo c = true := by
  rw [assignableTo_iff] at *
  rcases hbc with rfl | rfl
  · exact hab
  · exact .inr rfl

def arrow : List String → String
  | [] => ""
  | [r] => " -> " ++ r
  | rs => " -> (" ++ ", ".intercalate rs ++ ")"

mutual
/-- An array is its element followed by `[]`, with parentheses around a function so that the
brackets do not belong to its last result. -/
def text : Ty → String
  | .any => "any"
  | .bool => "bool"
  | .int => "int"
  | .float => "float"
  | .string => "string"
  | .error => "error"
  | .array (.function ps rs) => "(" ++ text (.function ps rs) ++ ")[]"
  | .array e => text e ++ "[]"
  | .function ps rs => "fn(" ++ ", ".intercalate (texts ps) ++ ")" ++ arrow (texts rs)
def texts : List Ty → List String
  | [] => []
  | t :: ts => text t :: texts ts
end

instance : ToString Ty := ⟨text⟩

end Ty

namespace Signature

instance : DecidableEq Signature := fun a b ↦
  decidable_of_iff (a.params = b.params ∧ a.results = b.results) (by cases a; cases b; simp)

def toTy (s : Signature) : Ty :=
  .function s.params s.results

def text (s : Signature) : String :=
  s.toTy.text

instance : ToString Signature := ⟨text⟩

end Signature

end DynSeq
