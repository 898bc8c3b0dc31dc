import DynSeq.Proofs.Agreement

namespace DynSeq

variable {σ : Type} {calls calls' : Calls σ}

def Calls.AgreeOnFew (calls calls' : Calls σ) : Prop :=
  ∀ f args s, args.length ≤ 1 → calls f args s = calls' f args s

theorem Calls.AgreeOnFew.recorded (h : calls.AgreeOnFew calls') :
    calls.recorded.AgreeOnFew calls'.recorded := by
  intro f args state hargs
  simp only [Calls.recorded, Calls.noted, h f args state.1 hargs]

theorem Passing.length_arguments_le {p : Passing} {index : Nat} {item : Value}
    {args : List Value} (h : p.arguments index item = .ok args) : args.length ≤ 1 := by
  cases p with
  | nothing =>
    cases h
    exact Nat.zero_le 1
  | each =>
    cases h
    exact Nat.le_refl 1
  | checked param =>
    simp only [arguments] at h
    split at h
    · cases h
      exact Nat.le_refl 1
    · cases h

namespace Contract

theorem step_congr (h : calls.AgreeOnFew calls') (c : Contract) (p : Passing) (index : Nat)
    (item : Value) (s : σ) : step calls c p index item s = step calls' c p index item s := by
  unfold step
  cases hargs : p.arguments index item with
  | error failure => rfl
  | ok args =>
    have hlength := Passing.length_arguments_le hargs
    simp only [h c.callable args s hlength]

theorem collect_congr (h : calls.AgreeOnFew calls') (c : Contract) (p : Passing)
    (stop : Value → Bool) (index : Nat) (items : List Value) (s : σ) :
    collect calls c p stop index items s = collect calls' c p stop index items s := by
  induction items generalizing index s with
  | nil => rfl
  | cons item rest ih => simp only [collect, step_congr h, ih]

end Contract

namespace Operation

theorem apply_congr (h : calls.AgreeOnFew calls') (op : Operation) (v w : Value) (s : σ) :
    op.apply calls v w s = op.apply calls' v w s := by
  rcases accepts_or_denies op v w with ⟨seq, c, p, ha⟩ | ⟨failure, hd⟩
  · rw [apply_of_accepts ha, apply_of_accepts ha, Contract.collect_congr h]
  · rw [apply_of_denies hd, apply_of_denies hd]

theorem pair_or_length_ne (args : List Value) : (∃ v w, args = [v, w]) ∨ args.length ≠ 2 := by
  match args with
  | [v, w] => exact .inl ⟨v, w, rfl⟩
  | [] | [_] => exact .inr nofun
  | _ :: _ :: _ :: _ => exact .inr nofun

theorem respond_of_length_ne (fresh : σ → Nat × σ) (calls : Calls σ) (op : Operation)
    {args : List Value} (h : args.length ≠ 2) (s : σ) :
    op.respond fresh calls args s = op.refuse fresh args.length s := by
  match args with
  | [_, _] => exact absurd rfl h
  | [] | [_] => rfl
  | _ :: _ :: _ :: _ => rfl

theorem respond_congr (h : calls.AgreeOnFew calls') (fresh : σ → Nat × σ) (op : Operation)
    (args : List Value) (s : σ) :
    op.respond fresh calls args s = op.respond fresh calls' args s := by
  rcases pair_or_length_ne args with ⟨v, w, rfl⟩ | hargs
  · simp only [respond, apply_congr h]
  · rw [respond_of_length_ne fresh calls op hargs, respond_of_length_ne fresh calls' op hargs]

theorem apply_findIndex_eq_int {v w answered : Value} {s t : σ}
    (h : findIndex.apply calls v w s = (.ok answered, t)) : ∃ n, answered = .int n := by
  have hfirst := congrArg Prod.fst h
  obtain ⟨n, -, hn⟩ := map_eq_ok_iff.1 hfirst
  exact ⟨n, hn.symm⟩

end Operation

namespace Host

variable (h : Host σ)

theorem innerCalls_agreeOnFew : h.innerCalls.AgreeOnFew h.calls := by
  intro f args s hargs
  unfold innerCalls calls runWith
  cases f.implementation.routine with
  | operation op =>
    have hlength : args.length ≠ 2 := by omega
    simp only [Operation.respond_of_length_ne h.fresh h.innerCalls op hlength]
  | _ => rfl

/-- An operation that is called calls in its turn as everyone does. -/
theorem calls_eq (f : Callable) :
    h.calls f = h.runWith (fun op ↦ op.respond h.fresh h.calls) f.implementation := by
  have hrespond : (fun op : Operation ↦ op.respond h.fresh h.innerCalls) =
      fun op ↦ op.respond h.fresh h.calls := by
    funext op args s
    exact Operation.respond_congr h.innerCalls_agreeOnFew h.fresh op args s
  calc h.calls f
      = h.runWith (fun op ↦ op.respond h.fresh h.innerCalls) f.implementation := rfl
    _ = h.runWith (fun op ↦ op.respond h.fresh h.calls) f.implementation := by rw [hrespond]

def freshBeside (state : σ × List (Callable × List Value)) :
    Nat × σ × List (Callable × List Value) :=
  let (identity, s') := h.fresh state.1
  (identity, s', state.2)

/-- The answer of an operation as a callable, with a record of the calls that it makes. -/
def observed (op : Operation) (args : List Value) (s : σ) :
    List Value × σ × List (Callable × List Value) :=
  op.respond h.freshBeside h.innerCalls.recorded args (s, [])

variable {args : List Value}

theorem respond_freshBeside (calls : Calls σ) (op : Operation) (args : List Value) (s : σ)
    (log : List (Callable × List Value)) : op.respond h.fresh calls args s =
      ((op.respond h.freshBeside calls.recorded args (s, log)).1,
        (op.respond h.freshBeside calls.recorded args (s, log)).2.1) := by
  rcases Operation.pair_or_length_ne args with ⟨v, w, rfl⟩ | hargs
  · simp only [Operation.respond, Operation.apply_recorded calls op v w s log]
    cases op.apply calls.recorded v w (s, log) with
    | mk answered state => cases answered <;> rfl
  · rw [Operation.respond_of_length_ne _ _ op hargs, Operation.respond_of_length_ne _ _ op hargs]
    rfl

theorem calls_operation (op : Operation) (identity : Nat) (args : List Value) (s : σ) :
    h.calls (op.callable identity) args s =
      (.returned (h.observed op args s).1, (h.observed op args s).2.1) := by
  have hrun : h.calls (op.callable identity) args s =
    (.returned (op.respond h.fresh h.innerCalls args s).1,
      (op.respond h.fresh h.innerCalls args s).2) := rfl
  rw [hrun, h.respond_freshBeside h.innerCalls op args s []]
  rfl

theorem observed_eq (op : Operation) (v w : Value) (s : σ) : h.observed op [v, w] s =
    match op.apply h.calls v w s with
    | (.ok answered, t) => ([answered, .null], t, (op.callsMade h.calls v w s).reverse)
    | (.error failure, t) =>
      ([op.onError, .error (.mk (h.fresh t).1 (.failure failure))], (h.fresh t).2,
        (op.callsMade h.calls v w s).reverse) := by
  rw [Operation.apply_recorded h.calls op v w s [], Operation.callsMade_eq, List.reverse_reverse,
    observed, Operation.respond_congr h.innerCalls_agreeOnFew.recorded, Operation.respond]
  cases op.apply h.calls.recorded v w (s, []) with
  | mk answered state => cases answered <;> rfl

theorem observed_of_length_ne (op : Operation) (hargs : args.length ≠ 2) (s : σ) :
    h.observed op args s = ([op.onError, .error (.mk (h.fresh s).1 (.message
      (op.name ++ "() expects 2 arguments, got " ++ toString args.length)))], (h.fresh s).2, []) := by
  rw [observed, Operation.respond_of_length_ne _ _ op hargs]
  rfl

end Host

namespace Operation

variable (h : Host σ)

theorem onError_eq (op : Operation) :
    op.onError = if op = .findIndex then .int (-1) else .null := by
  cases op <;> rfl

theorem onError_assignableTo (op : Operation) : op.onError.assignableTo op.primaryType = true := by
  cases op <;> rfl

theorem answered_assignableTo {op : Operation} {v w answered : Value} {s t : σ}
    (hrun : op.apply calls v w s = (.ok answered, t)) :
    answered.assignableTo op.primaryType = true := by
  cases op with
  | findIndex =>
    obtain ⟨n, rfl⟩ := apply_findIndex_eq_int hrun
    rfl
  | map | filter | find => exact answered.assignableTo_any

/-- A call of an operation as a callable gives two values and keeps to the declared results. With
two arguments they say what the operation itself says of them, with the calls that it makes and with
its failure inside the error, and with any other number of arguments nothing is called. -/
theorem callable_refines_apply (op : Operation) (identity : Nat) (args : List Value) (s : σ) :
    ∃ first second t made,
      h.calls (op.callable identity) args s = (.returned [first, second], t) ∧
      h.observed op args s = ([first, second], t, made) ∧
      (op.callable identity).signature.results = [op.primaryType, .error] ∧
      first.assignableTo op.primaryType = true ∧ second.assignableTo .error = true ∧
      (∀ v w, args = [v, w] → made.reverse = op.callsMade h.calls v w s ∧
        (∀ answered u, op.apply h.calls v w s = (.ok answered, u) →
          first = answered ∧ second = .null ∧ t = u) ∧
        ∀ failure u, op.apply h.calls v w s = (.error failure, u) →
          first = (if op = .findIndex then .int (-1) else .null) ∧
          ∃ e, second = .error e ∧ e.failure? = some failure ∧ h.fresh u = (e.identity, t)) ∧
      (args.length ≠ 2 → made = [] ∧
        first = (if op = .findIndex then .int (-1) else .null) ∧
        ∃ e, second = .error e ∧ h.fresh s = (e.identity, t) ∧ e.cause =
          .message (op.name ++ "() expects 2 arguments, got " ++ toString args.length)) := by
  rw [h.calls_operation op identity args s, ← onError_eq]
  rcases pair_or_length_ne args with ⟨v, w, rfl⟩ | hargs
  · cases hrun : op.apply h.calls v w s with
    | mk ran u =>
      cases ran with
      | ok answered =>
        rw [h.observed_eq, hrun]
        refine ⟨answered, .null, u, _, rfl, rfl, rfl, answered_assignableTo hrun, rfl, ?_,
          fun hne ↦ absurd rfl hne⟩
        intro v' w' heq
        cases heq
        rw [hrun]
        refine ⟨List.reverse_reverse _, ?_, nofun⟩
        intro answered' u' h'
        cases h'
        exact ⟨rfl, rfl, rfl⟩
      | error failure =>
        rw [h.observed_eq, hrun]
        refine ⟨op.onError, .error _, _, _, rfl, rfl, rfl, op.onError_assignableTo, rfl, ?_,
          fun hne ↦ absurd rfl hne⟩
        intro v' w' heq
        cases heq
        rw [hrun]
        refine ⟨List.reverse_reverse _, nofun, ?_⟩
        intro failure' u' h'
        cases h'
        exact ⟨rfl, _, rfl, rfl, rfl⟩
  · rw [h.observed_of_length_ne op hargs]
    refine ⟨op.onError, .error _, _, _, rfl, rfl, rfl, op.onError_assignableTo, rfl, ?_,
      fun _ ↦ ⟨rfl, rfl, _, rfl, rfl, rfl⟩⟩
    intro v w heq
    exact absurd (congrArg List.length heq) hargs

end Operation

end DynSeq
