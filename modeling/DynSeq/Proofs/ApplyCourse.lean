import DynSeq.Host
import DynSeq.Proofs.Course

namespace DynSeq

/-- Calls that do with a part of their state what others do with the whole of theirs. -/
def Calls.ProjectsTo {σ τ : Type} (calls' : Calls τ) (calls : Calls σ) (part : τ → σ) : Prop :=
  ∀ f args t, calls f args (part t) = ((calls' f args t).1, part (calls' f args t).2)

section Noted

variable {σ ν : Type} (calls : Calls σ) (note : Exchange → ν)

theorem Calls.noted_projectsTo : (calls.noted note).ProjectsTo calls Prod.fst := by
  intro f args t
  rfl

theorem Calls.transcribed_projectsTo_noted :
    calls.transcribed.ProjectsTo (calls.noted note) (Prod.map id (List.map note)) := by
  intro f args t
  rfl

end Noted

namespace Contract

variable {σ τ : Type}

theorem collect_of_projectsTo {calls' : Calls τ} {calls : Calls σ} {part : τ → σ}
    (h : calls'.ProjectsTo calls part) (c : Contract) (p : Passing) (stop : Value → Bool)
    (index : Nat) (items : List Value) (t : τ) :
    collect calls c p stop index items (part t) =
      ((collect calls' c p stop index items t).1, part (collect calls' c p stop index items t).2) := by
  induction items generalizing index t with
  | nil => rfl
  | cons item rest ih =>
    cases ha : p.arguments index item with
    | error failure => simp only [collect, step, ha]
    | ok args =>
      simp only [collect, step, ha, h c.callable args t]
      cases hr : c.primaryOf index (calls' c.callable args t).1 with
      | error failure => rfl
      | ok result =>
        cases hstop : stop result with
        | true => simp only [hstop, if_true]
        | false =>
          simp only [hstop, Bool.false_eq_true, if_false]
          rw [ih (index + 1)]

theorem collect_recorded (calls : Calls σ) (c : Contract) (p : Passing) (stop : Value → Bool)
    (index : Nat) (items : List Value) (s : σ) (log : List (Callable × List Value)) :
    collect calls c p stop index items s =
      ((collect calls.recorded c p stop index items (s, log)).1,
        (collect calls.recorded c p stop index items (s, log)).2.1) :=
  collect_of_projectsTo (calls.noted_projectsTo Exchange.call) c p stop index items (s, log)

end Contract

namespace Operation

variable {σ : Type} {calls : Calls σ} {op : Operation} {v w : Value}

def stop : Operation → Value → Bool
  | .map | .filter => never
  | .find | .findIndex => Value.isTruthy

def answer (op : Operation) (v : Value) (seq : Sequence) (c : Contract) (results : List Value) :
    Value :=
  match op with
  | .map => label c.primary results
  | .filter => .array (keptType seq c.param) (keep seq.items results)
  | .find => itemFound v (firstTruthy results)
  | .findIndex => .int (firstTruthy results)

theorem suits_iff {primary : Ty} :
    Contract.suits op.purpose primary = true ↔ op = .map ∨ primary = .bool := by
  cases op <;> simp [Contract.suits, purpose, Ty.assignableTo_iff]

/-- All that is checked before the first item comes to its turn. -/
structure Accepts (op : Operation) (v w : Value) (seq : Sequence) (c : Contract) (p : Passing) :
    Prop where
  sequence : Sequence.ofValue v = .ok seq
  contract : Contract.ofValue op.purpose w = .ok c
  passing : Passing.choose seq c.param = .ok p

/-- The first of these checks that fails. -/
inductive Denies (op : Operation) (v w : Value) (failure : Failure) : Prop
  | sequence (hs : Sequence.ofValue v = .error failure)
  | contract (seq : Sequence) (hs : Sequence.ofValue v = .ok seq)
      (hc : Contract.ofValue op.purpose w = .error failure)
  | passing (seq : Sequence) (c : Contract) (hs : Sequence.ofValue v = .ok seq)
      (hc : Contract.ofValue op.purpose w = .ok c)
      (hp : Passing.choose seq c.param = .error failure)

theorem accepts_or_denies (op : Operation) (v w : Value) :
    (∃ seq c p, op.Accepts v w seq c p) ∨ ∃ failure, op.Denies v w failure := by
  cases hs : Sequence.ofValue v with
  | error failure => exact .inr ⟨failure, .sequence hs⟩
  | ok seq =>
    cases hc : Contract.ofValue op.purpose w with
    | error failure => exact .inr ⟨failure, .contract seq hs hc⟩
    | ok c =>
      cases hp : Passing.choose seq c.param with
      | error failure => exact .inr ⟨failure, .passing seq c hs hc hp⟩
      | ok p => exact .inl ⟨seq, c, p, hs, hc, hp⟩

theorem apply_eq_runOn (calls : Calls σ) (op : Operation) (v w : Value) (s : σ) :
    op.apply calls v w s =
      let (ran, t) := runOn calls op op.stop v w s
      (ran.map fun (seq, c, results) ↦ op.answer v seq c results, t) := by
  cases op with
  | map => rfl
  | filter => rfl
  | find =>
    simp only [apply, runFind, runFindIndex]
    have h : runOn calls .findIndex Value.isTruthy v w s = runOn calls .find (stop .find) v w s :=
      rfl
    rw [h]
    cases runOn calls .find (stop .find) v w s with
    | mk ran t => cases ran <;> rfl
  | findIndex =>
    simp only [apply, runFindIndex, stop]
    cases runOn calls .findIndex Value.isTruthy v w s with
    | mk ran t => cases ran <;> rfl

theorem apply_of_accepts {seq : Sequence} {c : Contract} {p : Passing}
    (h : op.Accepts v w seq c p) (s : σ) : op.apply calls v w s =
      let (ran, t) := c.collect calls p op.stop 0 seq.items s
      (ran.map (op.answer v seq c), t) := by
  rw [apply_eq_runOn]
  simp only [runOn, h.sequence, h.contract, Contract.run, h.passing]
  cases c.collect calls p op.stop 0 seq.items s with
  | mk ran t => cases ran <;> rfl

theorem apply_of_denies {failure : Failure} (h : op.Denies v w failure) (s : σ) :
    op.apply calls v w s = (.error failure, s) := by
  rw [apply_eq_runOn]
  cases h with
  | sequence hs => simp only [runOn, hs]; rfl
  | contract seq hs hc => simp only [runOn, hs, hc]; rfl
  | passing seq c hs hc hp => simp only [runOn, hs, hc, Contract.run, hp]; rfl

theorem apply_of_projectsTo {τ : Type} {calls' : Calls τ} {part : τ → σ}
    (h : calls'.ProjectsTo calls part) (op : Operation) (v w : Value) (t : τ) :
    op.apply calls v w (part t) =
      ((op.apply calls' v w t).1, part (op.apply calls' v w t).2) := by
  rcases accepts_or_denies op v w with ⟨seq, c, p, ha⟩ | ⟨failure, hd⟩
  · rw [apply_of_accepts ha, apply_of_accepts ha, Contract.collect_of_projectsTo h]
  · rw [apply_of_denies hd, apply_of_denies hd]

theorem apply_recorded (calls : Calls σ) (op : Operation) (v w : Value) (s : σ)
    (log : List (Callable × List Value)) : op.apply calls v w s =
      ((op.apply calls.recorded v w (s, log)).1, (op.apply calls.recorded v w (s, log)).2.1) :=
  apply_of_projectsTo (calls.noted_projectsTo Exchange.call) op v w (s, log)

/-- The calls that an operation makes and what comes of them, in their order. -/
def exchanges (calls : Calls σ) (op : Operation) (v w : Value) (s : σ) : List Exchange :=
  (op.apply calls.transcribed v w (s, [])).2.2.reverse

def callsMade (calls : Calls σ) (op : Operation) (v w : Value) (s : σ) :
    List (Callable × List Value) :=
  (op.exchanges calls v w s).map Exchange.call

theorem callsMade_eq (calls : Calls σ) (op : Operation) (v w : Value) (s : σ) :
    op.callsMade calls v w s = (op.apply calls.recorded v w (s, [])).2.2.reverse := by
  have h := apply_of_projectsTo (calls.transcribed_projectsTo_noted Exchange.call) op v w (s, [])
  rw [callsMade, exchanges, List.map_reverse]
  exact congrArg (fun ran ↦ ran.2.2.reverse) h.symm

theorem apply_of_ends {seq : Sequence} {c : Contract} {p : Passing}
    (h : op.Accepts v w seq c p) {s t : σ} {made : List (Callable × List Value)}
    {ended : Except Failure (List Value)}
    (he : c.callable.Ends calls seq op.stop s ended t made)
    (log : List (Callable × List Value)) :
    op.apply calls.recorded v w (s, log) = (ended.map (op.answer v seq c), t, made ++ log) := by
  rw [apply_of_accepts h, Contract.collect_of_ends h.sequence h.contract h.passing he]

theorem apply_cases (calls : Calls σ) (op : Operation) (v w : Value) (s : σ)
    (log : List (Callable × List Value)) :
    (∃ failure, op.Denies v w failure ∧
      op.apply calls.recorded v w (s, log) = (.error failure, s, log)) ∨
    ∃ seq c p ended t made, op.Accepts v w seq c p ∧
      c.callable.Ends calls seq op.stop s ended t made ∧
      op.apply calls.recorded v w (s, log) =
        (ended.map (op.answer v seq c), t, made ++ log) := by
  rcases accepts_or_denies op v w with ⟨seq, c, p, h⟩ | ⟨failure, h⟩
  · obtain ⟨ended, t, made, he⟩ := Contract.exists_ends calls seq op.stop h.contract s
    exact .inr ⟨seq, c, p, ended, t, made, h, he, apply_of_ends h he log⟩
  · exact .inl ⟨failure, h, apply_of_denies h _⟩

theorem ends_of_answered {s : σ} {answered : Value}
    (h : (op.apply calls v w s).1 = .ok answered) :
    ∃ seq c p results t made, op.Accepts v w seq c p ∧
      c.callable.Ends calls seq op.stop s (.ok results) t made ∧
      answered = op.answer v seq c results := by
  rw [apply_recorded calls op v w s []] at h
  rcases apply_cases calls op v w s [] with
    ⟨failure, -, hrun⟩ | ⟨seq, c, p, ended, t, made, ha, he, hrun⟩
  · rw [hrun] at h
    cases h
  · rw [hrun] at h
    cases ended with
    | error failure => cases h
    | ok results =>
      cases h
      exact ⟨seq, c, p, results, t, made, ha, he, rfl⟩

theorem outcome_of_ends {seq : Sequence} {c : Contract} {p : Passing}
    (h : op.Accepts v w seq c p) {s t : σ} {made : List (Callable × List Value)}
    {ended : Except Failure (List Value)}
    (he : c.callable.Ends calls seq op.stop s ended t made) :
    (op.apply calls v w s).1 = ended.map (op.answer v seq c) := by
  rw [apply_recorded calls op v w s [], apply_of_ends h he]

theorem denied_or_ended {s : σ} {failure : Failure}
    (h : (op.apply calls v w s).1 = .error failure) :
    op.Denies v w failure ∨ ∃ seq c p t made, op.Accepts v w seq c p ∧
      c.callable.Ends calls seq op.stop s (.error failure) t made := by
  rw [apply_recorded calls op v w s []] at h
  rcases apply_cases calls op v w s [] with
    ⟨failure', hd, hrun⟩ | ⟨seq, c, p, ended, t, made, ha, he, hrun⟩
  · rw [hrun] at h
    cases h
    exact .inl hd
  · rw [hrun] at h
    cases ended with
    | error failure' =>
      cases h
      exact .inr ⟨seq, c, p, t, made, ha, he⟩
    | ok results => cases h

/-- Once a sequence and a callable are accepted, an operation does what the course of a run says,
call by call, and nothing else. -/
theorem apply_iff_ends {seq : Sequence} {c : Contract} {p : Passing}
    (hs : Sequence.ofValue v = .ok seq) (hc : Contract.ofValue op.purpose w = .ok c)
    (hp : Passing.choose seq c.param = .ok p) (calls : Calls σ) (s t : σ)
    (answered : Except Failure Value) (made : List (Callable × List Value)) :
    op.apply calls v w s = (answered, t) ∧ (op.apply calls.recorded v w (s, [])).2.2 = made ↔
      ∃ ended, c.callable.Ends calls seq op.stop s ended t made ∧
        answered = ended.map (op.answer v seq c) ∧
        ∃ count ≤ seq.items.length, made = c.callable.callsFor (seq.items.take count) := by
  have h : op.Accepts v w seq c p := ⟨hs, hc, hp⟩
  constructor
  · rintro ⟨hanswer, rfl⟩
    obtain ⟨ended, t', made, he⟩ := Contract.exists_ends calls seq op.stop hc s
    rw [apply_recorded calls op v w s [], apply_of_ends h he] at hanswer
    cases hanswer
    rw [apply_of_ends h he, List.append_nil]
    exact ⟨ended, he, rfl, he.made_eq⟩
  · rintro ⟨ended, he, rfl, -⟩
    rw [apply_recorded calls op v w s [], apply_of_ends h he, List.append_nil]
    exact ⟨rfl, rfl⟩

theorem find_odd_ends_at_string :
    Sequence.ofValue (.array .any [.int 2, .string "x", .int 3]) =
        .ok ⟨[.int 2, .string "x", .int 3], some .any⟩ ∧
      Contract.ofValue find.purpose (.function (Demo.odd.callable 0)) =
        .ok ⟨Demo.odd.callable 0, some .int, .bool, false⟩ ∧
      Passing.choose ⟨[.int 2, .string "x", .int 3], some .any⟩ (some .int) =
        .ok (.checked .int) ∧
      ∃ ended, (Demo.odd.callable 0).Ends Host.alone.calls
          ⟨[.int 2, .string "x", .int 3], some .any⟩ find.stop 5 ended 5
          [(Demo.odd.callable 0, [.int 2])] ∧
        .error (.elementNotAssignable 1 .int "string") =
          ended.map (find.answer (.array .any [.int 2, .string "x", .int 3])
            ⟨[.int 2, .string "x", .int 3], some .any⟩
            ⟨Demo.odd.callable 0, some .int, .bool, false⟩) ∧
        ∃ count ≤ 3, [(Demo.odd.callable 0, [.int 2])] = (Demo.odd.callable 0).callsFor
          ([Value.int 2, .string "x", .int 3].take count) := by
  have hs : Sequence.ofValue (.array .any [.int 2, .string "x", .int 3]) =
    .ok ⟨[.int 2, .string "x", .int 3], some .any⟩ := rfl
  have hc : Contract.ofValue find.purpose (.function (Demo.odd.callable 0)) =
    .ok ⟨Demo.odd.callable 0, some .int, .bool, false⟩ := rfl
  have hp : Passing.choose ⟨[.int 2, .string "x", .int 3], some .any⟩ (some .int) =
    .ok (.checked .int) := rfl
  exact ⟨hs, hc, hp, (apply_iff_ends hs hc hp Host.alone.calls 5 5 _ _).1 ⟨rfl, rfl⟩⟩

end Operation

end DynSeq
