import DynSeq.Proofs.Agreement

namespace DynSeq

theorem Value.assignableTo_int {v : Value} : v.assignableTo .int = true ↔ ∃ n, v = .int n := by
  cases v <;> simp [assignableTo, runtimeType?, Ty.assignableTo_iff, Ty.isNullable,
    Signature.toTy]

namespace Demo

variable {σ : Type}

def result (d : Demo) (args : List Value) : Value :=
  (d.run args).headD .null

theorem run_eq (d : Demo) (args : List Value) : d.run args = [d.result args] := by
  unfold result run
  split <;> rfl

theorem mod_two_eq (n : Int64) : (n % 2 == 1) = (n.toInt.tmod 2 == 1) := by
  have htwo : (2 : Int64).toInt = 2 := rfl
  have hone : (1 : Int64).toInt = 1 := rfl
  have hmod : (n % 2).toInt = n.toInt.tmod 2 := by rw [Int64.toInt_mod, htwo]
  rw [Bool.eq_iff_iff, beq_iff_eq, beq_iff_eq, ← Int64.toInt_inj, hmod, hone]

theorem params_of_ne_never {d : Demo} (h : d ≠ .never) : d.signature.params = [.int] := by
  cases d with
  | never => exact absurd rfl h
  | inc | odd => rfl

def contract (d : Demo) (identity : Nat) : Contract :=
  ⟨d.callable identity, d.signature.params.head?, d.signature.results.headD .any, false⟩

section Contract

variable {op : Operation} {d : Demo}

theorem contract_eq (op : Operation) (d : Demo) (identity : Nat) :
    Contract.ofValue op.purpose (.function (d.callable identity)) =
      if op = .map ∨ d ≠ .inc then .ok (d.contract identity)
      else .error (.firstReturnNotBool .int) := by
  cases op <;> cases d <;> rfl

theorem contract_eq_ok (h : op = .map ∨ d ≠ .inc) (identity : Nat) :
    Contract.ofValue op.purpose (.function (d.callable identity)) = .ok (d.contract identity) := by
  rw [contract_eq, if_pos h]

theorem contract_eq_error (h : ¬ (op = .map ∨ d ≠ .inc)) (identity : Nat) :
    Contract.ofValue op.purpose (.function (d.callable identity)) =
      .error (.firstReturnNotBool .int) := by
  rw [contract_eq, if_neg h]

end Contract

theorem calls_eq (h : Host σ) (d : Demo) (identity : Nat) (args : List Value) (s : σ) :
    h.calls (d.callable identity) args s = (.returned [d.result args], s) := by
  rw [← d.run_eq]
  rfl

theorem step_eq (h : Host σ) (d : Demo) (identity : Nat) (p : Passing) (index : Nat)
    (item : Value) (s : σ) : Contract.step h.calls (d.contract identity) p index item s =
      ((p.arguments index item).map d.result, s) := by
  have hcallable : (d.contract identity).callable = d.callable identity := rfl
  cases hargs : p.arguments index item with
  | error failure => simp only [Contract.step, hargs, Except.map]
  | ok args =>
    simp only [Contract.step, hargs, hcallable, d.calls_eq h, Except.map]
    rfl

end Demo

namespace Contract

variable {σ : Type} {calls : Calls σ} {c : Contract} {p : Passing} {g : Value → Value}

theorem collect_of_steps {items : List Value}
    (h : ∀ item ∈ items, ∀ index s, (step calls c p index item s).1 = .ok (g item))
    (index : Nat) (s : σ) :
    (collect calls c p Operation.never index items s).1 = .ok (items.map g) := by
  induction items generalizing index s with
  | nil => rfl
  | cons item rest ih =>
    obtain ⟨hitem, hrest⟩ := List.forall_mem_cons.1 h
    have hstep : step calls c p index item s =
      (.ok (g item), (step calls c p index item s).2) := Prod.ext (hitem index s) rfl
    rw [collect_of_next hstep Operation.never rfl, ih hrest]
    rfl

end Contract

namespace Operation

variable {σ : Type} {calls : Calls σ} {op : Operation} {v w : Value} {seq : Sequence}
  {c : Contract} {p : Passing}

theorem answer_of_never (ha : op.Accepts v w seq c p) {s : σ} {results : List Value}
    (h : (c.collect calls p never 0 seq.items s).1 = .ok results) :
    (op.apply calls v w s).1 = .ok (op.answer v seq c results) := by
  rw [Contract.collect_recorded calls c p never 0 seq.items s []] at h
  have hcuts := c.collect_cuts calls p Value.isTruthy 0 seq.items s []
  obtain ⟨found, hcut, hsame⟩ := hcuts.findIdx?_eq h
  have hfirst : firstTruthy found = firstTruthy results := by
    simp only [firstTruthy]
    rw [hsame]
  cases op with
  | map =>
    rw [outcome_of_accepts calls ha never rfl, h]
    rfl
  | filter =>
    rw [outcome_of_accepts calls ha never rfl, h]
    rfl
  | find =>
    rw [outcome_of_accepts calls ha Value.isTruthy rfl, hcut]
    simp only [Except.map, answer, hfirst]
  | findIndex =>
    rw [outcome_of_accepts calls ha Value.isTruthy rfl, hcut]
    simp only [Except.map, answer, hfirst]

end Operation

end DynSeq
