import DynSeq.Proofs.Typing

namespace DynSeq.Operation

variable {σ : Type} {calls : Calls σ} {op : Operation} {v w : Value}

theorem exists_truthy_of_mem_keep {items results : List Value} {item : Value}
    (h : item ∈ keep items results) :
    ∃ (i : Nat) (r : Value), items[i]? = some item ∧ results[i]? = some r ∧ r.isTruthy = true := by
  obtain ⟨pair, hpair, rfl⟩ := List.mem_map.1 h
  obtain ⟨hzip, htruthy⟩ := List.mem_filter.1 hpair
  obtain ⟨i, hi, hget⟩ := List.mem_iff_getElem.1 hzip
  rw [List.length_zip] at hi
  rw [List.getElem_zip] at hget
  refine ⟨i, pair.2, ?_, ?_, htruthy⟩
  · rw [List.getElem?_eq_getElem (by omega), ← hget]
  · rw [List.getElem?_eq_getElem (by omega), ← hget]

theorem assignableTo_error {v : Value} :
    v.assignableTo .error = true ↔ v = .null ∨ ∃ e, v = .error e := by
  cases v <;> simp [Value.assignableTo, Value.runtimeType?, Ty.assignableTo_iff, Ty.isNullable,
    Signature.toTy]

/-- An item that a filter keeps from an array of errors although it is neither null nor an error.
It fits the parameter, if the predicate takes one. -/
structure KeptStray (v w : Value) (element : Ty) (item : Value) : Prop where
  declared : element = .error ∧ ∃ inputs, v = .array .error inputs ∧ item ∈ inputs
  stray : item ≠ .null ∧ ∀ e, item ≠ .error e
  admitted : ∀ f param, w = .function f → f.signature.params = [param] →
    item.assignableTo param = true

theorem kept_admitted {seq : Sequence} {c : Contract} {p : Passing}
    (ha : op.Accepts v w seq c p) {s t : σ} {made : List (Callable × List Value)}
    {results : List Value} (he : c.callable.Ends calls seq op.stop s (.ok results) t made)
    {item : Value} (h : item ∈ keep seq.items results) :
    item ∈ seq.items ∧ ∀ f param, w = .function f → f.signature.params = [param] →
      item.assignableTo param = true := by
  obtain ⟨i, r, hitem, hr, -⟩ := exists_truthy_of_mem_keep h
  obtain ⟨hi, -⟩ := List.getElem?_eq_some_iff.1 hr
  have hmem := List.mem_of_getElem? hitem
  have hadmits := he.results_admitted.2 i hi item hitem
  refine ⟨hmem, ?_⟩
  intro f param hw hparams
  subst hw
  obtain ⟨hf, -⟩ := Contract.ofValue_eq_ok_iff.1 ha.contract
  cases hf
  exact fits_of_admits ha hmem hadmits hparams

theorem kept_fits_or_stray {seq : Sequence} {c : Contract} {p : Passing}
    (ha : filter.Accepts v w seq c p) {s t : σ} {made : List (Callable × List Value)}
    {results : List Value} (he : c.callable.Ends calls seq never s (.ok results) t made)
    {item : Value} (h : item ∈ keep seq.items results) :
    item.assignableTo (keptType seq c.param) = true ∨
      KeptStray v w (keptType seq c.param) item := by
  obtain ⟨hmem, hadmitted⟩ := kept_admitted ha he h
  rcases Sequence.ofValue_eq_ok_iff.1 ha.sequence with ⟨-, rfl⟩ | ⟨element, rfl, hd, hitems⟩
  · cases hmem
  · have hkept : keptType seq c.param = element := by simp [keptType, hd]
    rw [hkept]
    cases hfit : item.assignableTo element with
    | true => exact .inl rfl
    | false =>
      have herror : element = .error := by
        cases hopen : element.isInterface with
        | false => simp [hitems hopen item hmem] at hfit
        | true => cases element <;> simp_all [Ty.isInterface, Value.assignableTo_any]
      subst herror
      have hstray : ¬ (item = .null ∨ ∃ e, item = .error e) := by
        rw [← assignableTo_error, hfit]
        exact Bool.false_ne_true
      obtain ⟨hnull, herror⟩ := not_or.1 hstray
      exact .inr ⟨⟨rfl, seq.items, rfl, hmem⟩, ⟨hnull, not_exists.1 herror⟩, hadmitted⟩

/-- Every item of a mapped array fits the type that the array declares, and so does every item of a
filtered one, unless that is kept from an array which was declared to hold errors and held
something else. -/
theorem answered_items_fit (calls : Calls σ) (v w : Value) (s : σ) :
    (∀ answered, (map.apply calls v w s).1 = .ok answered → ∃ element items,
      answered = .array element items ∧ ∀ item ∈ items, item.assignableTo element = true) ∧
    ∀ answered, (filter.apply calls v w s).1 = .ok answered → ∃ element items,
      answered = .array element items ∧
      ∀ item ∈ items, item.assignableTo element = true ∨ KeptStray v w element item := by
  constructor
  · intro answered h
    obtain ⟨seq, c, p, results, t, made, ha, he, rfl⟩ := ends_of_answered h
    exact ⟨_, results, rfl, fits_foldl_widen c.primary results⟩
  · intro answered h
    obtain ⟨seq, c, p, results, t, made, ha, he, rfl⟩ := ends_of_answered h
    refine ⟨_, _, rfl, ?_⟩
    intro item hitem
    exact kept_fits_or_stray ha he hitem

theorem odd_kept_among_errors : ¬ ∀ element items,
    (filter.apply Host.alone.calls (.array .error [.int 2, .int 3])
      (.function (Demo.odd.callable 0)) 1).1 = .ok (.array element items) →
    ∀ item ∈ items, item.assignableTo element = true := by
  intro h
  have hfit : (Value.int 3).assignableTo .error = true :=
    h .error [.int 3] rfl (.int 3) (List.mem_singleton_self _)
  cases hfit

theorem odd_fits_or_stray :
    (map.apply Host.alone.calls (.array .error [.int 2, .int 3])
        (.function (Demo.odd.callable 0)) 1).1 = .ok (.array .bool [.bool false, .bool true]) ∧
      (∃ element items, Value.array .bool [.bool false, .bool true] = .array element items ∧
        ∀ item ∈ items, item.assignableTo element = true) ∧
      (filter.apply Host.alone.calls (.array .error [.int 2, .int 3])
        (.function (Demo.odd.callable 0)) 1).1 = .ok (.array .error [.int 3]) ∧
      ∃ element items, Value.array .error [.int 3] = .array element items ∧
        ∀ item ∈ items, item.assignableTo element = true ∨ KeptStray
          (.array .error [.int 2, .int 3]) (.function (Demo.odd.callable 0)) element item := by
  have hfit := answered_items_fit Host.alone.calls (.array .error [.int 2, .int 3])
    (.function (Demo.odd.callable 0)) 1
  exact ⟨rfl, hfit.1 _ rfl, rfl, hfit.2 _ rfl⟩

end DynSeq.Operation
