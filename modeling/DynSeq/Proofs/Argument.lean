import DynSeq.Proofs.ApplyCourse

namespace DynSeq.Operation

variable {σ : Type} {calls : Calls σ} {op : Operation} {v w : Value}

theorem fits_of_admits {seq : Sequence} {c : Contract} {p : Passing} {item : Value} {param : Ty}
    (ha : op.Accepts v w seq c p) (hi : item ∈ seq.items) (hadmits : c.callable.Admits seq item)
    (hparams : c.callable.signature.params = [param]) : item.assignableTo param = true := by
  obtain ⟨element, hd⟩ := Sequence.declared_eq_some ha.sequence hi
  cases hopen : element.isInterface with
  | true =>
    obtain ⟨items, declared⟩ := seq
    cases hd
    exact hadmits param hparams (Sequence.isOpen_iff.2 hopen)
  | false =>
    have hstatic : seq.static? = some element := by simp [Sequence.static?, hd, hopen]
    have hitem := Sequence.assignableTo_static ha.sequence hstatic item hi
    have hparam : c.param = some param := Option.toList_eq_singleton_iff.1
      ((Contract.ofValue_eq_ok_iff.1 ha.contract).2.1.symm.trans hparams)
    refine Value.assignableTo_trans hitem (Ty.assignableTo_iff.2 ?_)
    by_cases hne : param = element
    · exact .inl hne.symm
    · by_cases hany : param = .any
      · exact .inr hany
      · have herror := Passing.choose_eq_error_iff.2
          ⟨param, element, hparam, hstatic, List.ne_nil_of_mem hi, hne, hany, rfl⟩
        cases ha.passing.symm.trans herror

/-- The arguments of a call are as many as the signature has parameters, and what stands for the
only parameter is an item of the sequence that fits it. -/
def Fitting (v : Value) (call : Callable × List Value) : Prop :=
  call.1.signature.params = [] ∧ call.2 = [] ∨
  ∃ param element items item, call.1.signature.params = [param] ∧ v = .array element items ∧
    item ∈ items ∧ call.2 = [item] ∧ item.assignableTo param = true

theorem fitting_of_accepts {seq : Sequence} {c : Contract} {p : Passing}
    (ha : op.Accepts v w seq c p) {item : Value} (hi : item ∈ seq.items)
    (hadmits : c.callable.Admits seq item) : Fitting v (c.callable, c.callable.given item) := by
  have hparams := (Contract.ofValue_eq_ok_iff.1 ha.contract).2.1
  cases hparam : c.param with
  | none =>
    rw [hparam] at hparams
    exact .inl ⟨hparams, Callable.given_of_nil hparams item⟩
  | some param =>
    rw [hparam] at hparams
    rcases Sequence.ofValue_eq_ok_iff.1 ha.sequence with ⟨-, rfl⟩ | ⟨element, hv, -⟩
    · simp [Sequence.empty] at hi
    · exact .inr ⟨param, element, seq.items, item, hparams, hv, hi,
        Callable.given_of_singleton hparams item, fits_of_admits ha hi hadmits hparams⟩

theorem apply_recorded_fitting (calls : Calls σ) (op : Operation) (v w : Value) (s : σ)
    (log : List (Callable × List Value)) :
    ∃ made, (op.apply calls.recorded v w (s, log)).2.2 = made ++ log ∧
      ∀ call ∈ made, w = .function call.1 ∧ Fitting v call := by
  rcases apply_cases calls op v w s log with
    ⟨failure, -, hrun⟩ | ⟨seq, c, p, ended, t, made, ha, he, hrun⟩
  · exact ⟨[], by rw [hrun]; rfl, by simp⟩
  · refine ⟨made, by rw [hrun], fun call hcall ↦ ?_⟩
    obtain ⟨item, hi, hadmits, rfl⟩ := he.call_admitted call hcall
    exact ⟨(Contract.ofValue_eq_ok_iff.1 ha.contract).1, fitting_of_accepts ha hi hadmits⟩

/-- Whatever the two values and the callable are, each call gets as many arguments as the signature
declares, at most one, and an argument is an item of the sequence that fits the parameter. -/
theorem calls_fitting (calls : Calls σ) (op : Operation) (v w : Value) (s : σ) :
    ∀ call ∈ (op.apply calls.recorded v w (s, [])).2.2, w = .function call.1 ∧
      call.2.length = call.1.signature.params.length ∧ call.2.length ≤ 1 ∧
      ∀ param, call.1.signature.params = [param] → ∃ element items item,
        v = .array element items ∧ item ∈ items ∧ call.2 = [item] ∧
        item.assignableTo param = true := by
  intro call hcall
  obtain ⟨made, hmade, hfit⟩ := apply_recorded_fitting calls op v w s []
  rw [hmade, List.append_nil] at hcall
  obtain ⟨hw, ⟨hparams, hargs⟩ | ⟨param, element, items, item, hparams, hv, hi, hargs, h⟩⟩ :=
    hfit call hcall
  · simp [hw, hparams, hargs]
  · refine ⟨hw, by rw [hparams, hargs]; rfl, by rw [hargs]; exact Nat.le_refl 1, ?_⟩
    intro param' hparam'
    cases hparams.symm.trans hparam'
    exact ⟨element, items, item, hv, hi, hargs, h⟩

theorem inc_fitting_among_errors :
    (Demo.inc.callable 0, [.int 3]) ∈ (map.apply Host.alone.calls.recorded
        (.array .error [.int 3, .string "x"]) (.function (Demo.inc.callable 0)) (0, [])).2.2 ∧
      Value.function (Demo.inc.callable 0) = .function (Demo.inc.callable 0) ∧
      [Value.int 3].length = (Demo.inc.callable 0).signature.params.length ∧
      [Value.int 3].length ≤ 1 ∧
      ∀ param, (Demo.inc.callable 0).signature.params = [param] → ∃ element items item,
        Value.array .error [.int 3, .string "x"] = .array element items ∧ item ∈ items ∧
        [.int 3] = [item] ∧ item.assignableTo param = true := by
  have hcall : (Demo.inc.callable 0, [.int 3]) ∈ (map.apply Host.alone.calls.recorded
      (.array .error [.int 3, .string "x"]) (.function (Demo.inc.callable 0)) (0, [])).2.2 :=
    List.mem_singleton.2 rfl
  exact ⟨hcall, calls_fitting Host.alone.calls map _ _ 0 _ hcall⟩

end DynSeq.Operation
