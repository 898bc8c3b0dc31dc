import DynSeq.Run

namespace DynSeq

namespace Sequence

/-- An open sequence declares an interface type, which says nothing about its items. -/
def IsOpen (seq : Sequence) : Prop :=
  seq.declared = some .any ∨ seq.declared = some .error

theorem isOpen_iff {element : Ty} {items : List Value} :
    IsOpen ⟨items, some element⟩ ↔ element.isInterface = true := by
  cases element <;> simp [IsOpen, Ty.isInterface]

theorem static?_eq {element : Ty} {items : List Value} :
    static? ⟨items, some element⟩ = if element.isInterface then none else some element := by
  cases h : element.isInterface <;> simp [static?, h]

theorem firstStray_eq_some_iff {element : Ty} {start : Nat} {items : List Value}
    {failure : Failure} : firstStray element start items = some failure ↔
      ∃ index item, items[index]? = some item ∧ item.assignableTo element = false ∧
        (∀ v ∈ items.take index, v.assignableTo element = true) ∧
        failure = .elementNotAssignable (start + index) element item.typeName := by
  induction items generalizing start with
  | nil => simp [firstStray]
  | cons v rest ih =>
    cases hv : v.assignableTo element with
    | false =>
      simp only [firstStray, hv, Bool.false_eq_true, if_false, Option.some.injEq]
      constructor
      · rintro rfl
        exact ⟨0, v, rfl, hv, by simp, rfl⟩
      · rintro ⟨index, item, hi, -, hbefore, rfl⟩
        cases index with
        | zero =>
          cases hi
          rfl
        | succ index =>
          have h := hbefore v (by simp)
          simp [hv] at h
    | true =>
      simp only [firstStray, hv, if_true, ih]
      constructor
      · rintro ⟨index, item, hi, hitem, hbefore, rfl⟩
        refine ⟨index + 1, item, hi, hitem, ?_, by rw [Nat.add_right_comm, Nat.add_assoc]⟩
        simpa [hv] using hbefore
      · rintro ⟨index, item, hi, hitem, hbefore, rfl⟩
        cases index with
        | zero =>
          cases hi
          simp [hv] at hitem
        | succ index =>
          refine ⟨index, item, hi, hitem, ?_, by rw [Nat.add_right_comm, Nat.add_assoc]⟩
          simpa [hv] using hbefore

theorem ofValue_eq_ok_iff {v : Value} {seq : Sequence} : ofValue v = .ok seq ↔
    v = .null ∧ seq = empty ∨ ∃ element, v = .array element seq.items ∧
      seq.declared = some element ∧
      (element.isInterface = false → ∀ item ∈ seq.items, item.assignableTo element = true) := by
  constructor
  · intro h
    unfold ofValue at h
    split at h
    · rename_i element items
      split at h
      · cases h
      · rename_i hstray
        cases h
        refine .inr ⟨element, rfl, rfl, fun hi ↦ ?_⟩
        simp only [hi, Bool.false_eq_true, if_false] at hstray
        exact firstStray_eq_none_iff.1 hstray
    · cases h
      exact .inl ⟨rfl, rfl⟩
    · cases h
  · rintro (⟨rfl, rfl⟩ | ⟨element, rfl, hd, hitems⟩)
    · rfl
    · obtain ⟨items, declared⟩ := seq
      cases hd
      cases hi : element.isInterface with
      | true => simp [ofValue, hi]
      | false => simp [ofValue, hi, firstStray_eq_none_iff.2 (hitems hi)]

theorem ofValue_array_eq_ok_iff {element : Ty} {items : List Value} {seq : Sequence} :
    ofValue (.array element items) = .ok seq ↔ seq = ⟨items, some element⟩ ∧
      (element.isInterface = false → ∀ item ∈ items, item.assignableTo element = true) := by
  rw [ofValue_eq_ok_iff]
  constructor
  · rintro (⟨h, -⟩ | ⟨declared, h, hd, hitems⟩) <;> cases h
    obtain ⟨items, declared⟩ := seq
    cases hd
    exact ⟨rfl, hitems⟩
  · rintro ⟨rfl, hitems⟩
    exact .inr ⟨element, rfl, rfl, hitems⟩

theorem ofValue_error_cases {v : Value} {failure : Failure} (h : ofValue v = .error failure) :
    v ≠ .null ∧ (∀ element items, v ≠ .array element items) ∧ failure = .notASlice v.kindName ∨
    ∃ element items, v = .array element items ∧ element.isInterface = false ∧
      firstStray element 0 items = some failure := by
  cases v with
  | null => cases h
  | array element items =>
    refine .inr ⟨element, items, rfl, ?_⟩
    cases hi : element.isInterface with
    | true => simp [ofValue, hi] at h
    | false =>
      simp only [ofValue, hi, Bool.false_eq_true, if_false] at h
      cases hstray : firstStray element 0 items with
      | none => simp [hstray] at h
      | some found =>
        simp only [hstray, Except.error.injEq] at h
        exact ⟨rfl, congrArg some h⟩
  | _ =>
    cases h
    exact .inl ⟨by simp, by simp, rfl⟩

theorem declared_eq_some {v item : Value} {seq : Sequence} (hs : ofValue v = .ok seq)
    (hi : item ∈ seq.items) : ∃ element, seq.declared = some element := by
  rcases ofValue_eq_ok_iff.1 hs with ⟨-, rfl⟩ | ⟨element, -, hd, -⟩
  · simp [empty] at hi
  · exact ⟨element, hd⟩

end Sequence

namespace Contract

theorem param?_eq_ok_iff {params : List Ty} {param : Option Ty} :
    param? params = .ok param ↔ params = param.toList := by
  cases param <;> rcases params with _ | ⟨t, _ | ⟨u, rest⟩⟩ <;> simp [param?]

theorem param?_eq_error_iff {params : List Ty} {failure : Failure} :
    param? params = .error failure ↔
      1 < params.length ∧ .badInputArity params.length = failure := by
  rcases params with _ | ⟨t, _ | ⟨u, rest⟩⟩ <;> simp [param?]

theorem assignableTo_error_iff {t : Ty} : t.assignableTo .error = true ↔ t = .error := by
  simp [Ty.assignableTo_iff]

theorem results?_eq_ok_iff {results : List Ty} {primary : Ty} {channel : Bool} :
    results? results = .ok (primary, channel) ↔
      results = primary :: if channel then [.error] else [] := by
  rcases results with _ | ⟨t, _ | ⟨u, _ | ⟨v, rest⟩⟩⟩
  · simp [results?]
  · cases channel <;> simp [results?]
  · cases channel <;> by_cases hu : u = .error <;>
      simp [results?, assignableTo_error_iff, hu]
  · cases channel <;> simp [results?]

theorem results?_eq_error_iff {results : List Ty} {failure : Failure} :
    results? results = .error failure ↔
      results.length ≠ 1 ∧ results.length ≠ 2 ∧ .badOutputArity results.length none = failure ∨
      ∃ primary second, results = [primary, second] ∧ second ≠ .error ∧
        .secondReturnNotError second.text none = failure := by
  rcases results with _ | ⟨t, _ | ⟨u, _ | ⟨v, rest⟩⟩⟩
  · simp [results?]
  · simp [results?]
  · by_cases hu : u = .error
    · simp [results?, assignableTo_error_iff, hu]
    · simp only [results?, assignableTo_error_iff, hu, if_false, Except.error.injEq]
      constructor
      · exact fun h ↦ .inr ⟨t, u, rfl, hu, h⟩
      · rintro (⟨-, h, -⟩ | ⟨t', u', he, -, h⟩)
        · simp at h
        · cases he
          exact h
  · simp [results?]

theorem ofValue_function (purpose : Purpose) (f : Callable) : ofValue purpose (.function f) =
    match param? f.signature.params, results? f.signature.results with
    | .error failure, _ => .error failure
    | .ok _, .error failure => .error failure
    | .ok param, .ok (primary, channel) =>
      if suits purpose primary then .ok ⟨f, param, primary, channel⟩
      else .error (.firstReturnNotBool primary) := by
  cases hp : param? f.signature.params <;> cases hr : results? f.signature.results <;>
    simp [ofValue, hp, hr, bind, Except.bind]

theorem ofValue_eq_ok_iff {purpose : Purpose} {v : Value} {c : Contract} :
    ofValue purpose v = .ok c ↔ v = .function c.callable ∧
      c.callable.signature.params = c.param.toList ∧
      c.callable.signature.results =
        (c.primary :: if c.hasErrorChannel then [.error] else []) ∧
      suits purpose c.primary = true := by
  obtain ⟨f, param, primary, channel⟩ := c
  cases v with
  | function g =>
    rw [ofValue_function]
    constructor
    · intro h
      split at h <;> try cases h
      rename_i hp hr
      split at h <;> cases h
      rename_i hsuits
      exact ⟨rfl, param?_eq_ok_iff.1 hp, results?_eq_ok_iff.1 hr, hsuits⟩
    · rintro ⟨hg, hp, hr, hsuits⟩
      cases hg
      simp only [param?_eq_ok_iff.2 hp, results?_eq_ok_iff.2 hr, hsuits, if_true]
  | _ => simp [ofValue]

section Function

variable {purpose : Purpose} {f : Callable} {c : Contract}
  (h : ofValue purpose (.function f) = .ok c)
include h

theorem callable_eq : c.callable = f :=
  (Value.function.inj (ofValue_eq_ok_iff.1 h).1).symm

theorem params_eq : f.signature.params = c.param.toList := by
  rw [← callable_eq h]
  exact (ofValue_eq_ok_iff.1 h).2.1

theorem head?_results : f.signature.results.head? = some c.primary := by
  rw [← callable_eq h, (ofValue_eq_ok_iff.1 h).2.2.1, List.head?_cons]

end Function

theorem ofValue_error_cases {purpose : Purpose} {v : Value} {failure : Failure}
    (h : ofValue purpose v = .error failure) :
    (∀ f, v ≠ .function f) ∧ failure = .notAFunction v.kindName ∨
    ∃ f, v = .function f ∧ (param? f.signature.params = .error failure ∨
      ∃ param, param? f.signature.params = .ok param ∧
        (results? f.signature.results = .error failure ∨
          ∃ primary channel, results? f.signature.results = .ok (primary, channel) ∧
            suits purpose primary = false ∧ failure = .firstReturnNotBool primary)) := by
  cases v with
  | function f =>
    refine .inr ⟨f, rfl, ?_⟩
    rw [ofValue_function] at h
    split at h
    · rename_i hp
      cases h
      exact .inl hp
    · rename_i hp hr
      cases h
      exact .inr ⟨_, hp, .inl hr⟩
    · rename_i hp hr
      split at h <;> cases h
      rename_i hsuits
      exact .inr ⟨_, hp, .inr ⟨_, _, hr, by simpa using hsuits, rfl⟩⟩
  | _ =>
    cases h
    exact .inl ⟨by simp, rfl⟩

theorem outCount_eq {purpose : Purpose} {v : Value} {c : Contract}
    (hc : ofValue purpose v = .ok c) : c.outCount = c.callable.signature.results.length := by
  rw [(ofValue_eq_ok_iff.1 hc).2.2.1, outCount]
  cases c.hasErrorChannel <;> rfl

end Contract

theorem Passing.choose_eq_error_iff {seq : Sequence} {param : Option Ty} {failure : Failure} :
    Passing.choose seq param = .error failure ↔ ∃ t element, param = some t ∧
      seq.static? = some element ∧ seq.items ≠ [] ∧ t ≠ element ∧ t ≠ .any ∧
      .elementNotAssignable 0 t element.text = failure := by
  cases param with
  | none => simp [choose]
  | some t =>
    cases hstatic : seq.static? with
    | none => simp [choose, hstatic]
    | some element =>
      by_cases h : (seq.items.isEmpty || element.assignableTo t) = true
      · simp only [choose, hstatic, h, if_true, reduceCtorEq, false_iff]
        rintro ⟨t', element', ht, he, hitems, hne, hany, -⟩
        cases ht
        cases he
        simp [Ty.assignableTo_iff, hitems, hany, Ne.symm hne] at h
      · simp only [choose, hstatic, h, Bool.false_eq_true, if_false, Except.error.injEq]
        simp only [Bool.or_eq_true, List.isEmpty_iff, Ty.assignableTo_iff, not_or] at h
        obtain ⟨hitems, hne, hany⟩ := h
        constructor
        · exact fun h ↦ ⟨t, element, rfl, rfl, hitems, Ne.symm hne, hany, h⟩
        · rintro ⟨t', element', ht, he, -, -, -, h⟩
          cases ht
          cases he
          exact h

end DynSeq
