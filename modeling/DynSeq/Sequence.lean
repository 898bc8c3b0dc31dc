import DynSeq.Value

namespace DynSeq

structure Sequence where
  items : List Value
  declared : Option Ty

namespace Sequence

def empty : Sequence := ⟨[], none⟩

def firstStray (element : Ty) : Nat → List Value → Option Failure
  | _, [] => none
  | index, item :: rest =>
    if item.assignableTo element then firstStray element (index + 1) rest
    else some (.elementNotAssignable index element item.typeName)

/-- An array is a sequence if its items fit its element type, which is only looked into when it is
not an interface type. Null is an empty sequence of unknown type. -/
def ofValue : Value → Except Failure Sequence
  | .array element items =>
    match if element.isInterface then none else firstStray element 0 items with
    | some failure => .error failure
    | none => .ok ⟨items, some element⟩
  | .null => .ok empty
  | other => .error (.notASlice other.kindName)

def static? (s : Sequence) : Option Ty :=
  s.declared.filter (!·.isInterface)

theorem firstStray_eq_none_iff {element : Ty} {index : Nat} {items : List Value} :
    firstStray element index items = none ↔ ∀ v ∈ items, v.assignableTo element = true := by
  induction items generalizing index with
  | nil => simp [firstStray]
  | cons v rest ih => by_cases h : v.assignableTo element <;> simp [firstStray, h, ih]

theorem assignableTo_static {v : Value} {s : Sequence} {element : Ty}
    (hs : ofValue v = .ok s) (he : s.static? = some element) :
    ∀ item ∈ s.items, item.assignableTo element = true := by
  unfold ofValue at hs
  split at hs
  · rename_i declared items
    split at hs
    · cases hs
    · rename_i hstray
      cases hs
      simp only [static?, Option.filter_eq_some_iff, Option.some.injEq] at he
      obtain ⟨rfl, hi⟩ := he
      simp only [Bool.not_eq_true'] at hi
      rw [hi] at hstray
      exact firstStray_eq_none_iff.1 (by simpa using hstray)
  · cases hs
    simp [empty]
  · cases hs

end Sequence

end DynSeq
