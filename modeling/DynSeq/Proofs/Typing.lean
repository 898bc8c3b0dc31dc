import DynSeq.Proofs.Argument

namespace DynSeq

namespace Value

/-- Throughout a well-typed value the items of every array fit the element type it declares. -/
inductive WellTyped : Value → Prop
  | null : WellTyped .null
  | bool (b : Bool) : WellTyped (.bool b)
  | int (n : Int64) : WellTyped (.int n)
  | float (x : Double) : WellTyped (.float x)
  | string (s : String) : WellTyped (.string s)
  | array {element : Ty} {items : List Value} :
      (∀ item ∈ items, item.assignableTo element = true) → (∀ item ∈ items, WellTyped item) →
      WellTyped (.array element items)
  | function (f : Callable) : WellTyped (.function f)
  | error (e : ErrorValue) : WellTyped (.error e)

theorem WellTyped.items_fit {element : Ty} {items : List Value}
    (h : WellTyped (.array element items)) :
    ∀ item ∈ items, item.assignableTo element = true := by
  cases h with
  | array hfit _ => exact hfit

theorem WellTyped.items_wellTyped {element : Ty} {items : List Value}
    (h : WellTyped (.array element items)) : ∀ item ∈ items, WellTyped item := by
  cases h with
  | array _ hitems => exact hitems

theorem WellTyped.accepted {element : Ty} {items : List Value}
    (h : WellTyped (.array element items)) :
    Sequence.ofValue (.array element items) = .ok ⟨items, some element⟩ :=
  Sequence.ofValue_eq_ok_iff.2 (.inr ⟨element, rfl, rfl, fun _ ↦ h.items_fit⟩)

theorem WellTyped.not_stray {v : Value} (h : WellTyped v) (index : Nat) (expected : Ty)
    (found : String) :
    Sequence.ofValue v ≠ .error (.elementNotAssignable index expected found) := by
  cases h with
  | array hfit hitems =>
    rw [(WellTyped.array hfit hitems).accepted]
    nofun
  | _ => nofun

end Value

/-- A callable that makes well-typed results of well-typed arguments where an invariant of the state
holds, which it keeps. It may panic, report errors and store its arguments. -/
def Calls.KeepsTyping {σ : Type} (calls : Calls σ) (inv : σ → Prop) (f : Callable) : Prop :=
  ∀ args s results, inv s → (∀ a ∈ args, a.WellTyped) → (calls f args s).1 = .returned results →
    inv (calls f args s).2 ∧ ∀ v ∈ results, v.WellTyped

namespace Callable

variable {σ : Type} {calls : Calls σ} {f : Callable} {seq : Sequence} {stop : Value → Bool}

section Keeps

variable {P : Value → Prop} {inv : σ → Prop} (hP : ∀ item ∈ seq.items, ∀ t results, inv t →
  (calls f (f.given item) t).1 = .returned results →
    inv (calls f (f.given item) t).2 ∧ ∀ v ∈ results, P v)
include hP

theorem Turn.keeps {index : Nat} {item result : Value} {t t' : σ}
    (h : f.Turn calls seq index item t (.ok result) t') (ht : inv t) : inv t' ∧ P result := by
  obtain ⟨rest, hreturned⟩ := h.reads.exists_returned
  obtain ⟨ht', hresults⟩ := hP item h.mem t _ ht hreturned
  rw [h.leaves] at ht'
  exact ⟨ht', hresults result List.mem_cons_self⟩

theorem Reaches.keeps {s t : σ} {index : Nat} {made : List (Callable × List Value)}
    {results : List Value} (h : f.Reaches calls seq stop s index t made results) (hs : inv s) :
    inv t ∧ ∀ r ∈ results, P r := by
  induction h with
  | start => exact ⟨hs, nofun⟩
  | next h hturn hstop ih =>
    obtain ⟨ht, hresults⟩ := ih
    obtain ⟨ht', hresult⟩ := hturn.keeps hP ht
    exact ⟨ht', List.forall_mem_append.2 ⟨hresults, List.forall_mem_singleton.2 hresult⟩⟩

theorem Ends.keeps {s t : σ} {made : List (Callable × List Value)} {results : List Value}
    (h : f.Ends calls seq stop s (.ok results) t made) (hs : inv s) :
    inv t ∧ ∀ r ∈ results, P r := by
  cases h with
  | exhausted h => exact h.keeps hP hs
  | stopped h hturn hstop =>
    obtain ⟨ht, hresults⟩ := h.keeps hP hs
    obtain ⟨ht', hresult⟩ := hturn.keeps hP ht
    exact ⟨ht', List.forall_mem_append.2 ⟨hresults, List.forall_mem_singleton.2 hresult⟩⟩

end Keeps

theorem Ends.results_of_returned {P : Value → Prop} (hP : ∀ item ∈ seq.items, ∀ t results,
      (calls f (f.given item) t).1 = .returned results → ∀ v ∈ results, P v)
    {s t : σ} {made : List (Callable × List Value)} {results : List Value}
    (h : f.Ends calls seq stop s (.ok results) t made) : ∀ r ∈ results, P r := by
  have hkeeps : ∀ item ∈ seq.items, ∀ t results, True →
      (calls f (f.given item) t).1 = .returned results → True ∧ ∀ v ∈ results, P v := by
    intro item hi t returned _ hreturned
    exact ⟨trivial, hP item hi t returned hreturned⟩
  exact (h.keeps hkeeps trivial).2

end Callable

namespace Operation

theorem foldl_widen (t : Ty) (results : List Value) : results.foldl widen t =
    if results.all (·.assignableTo t) then t else .any := by
  have hany (results : List Value) : results.foldl widen .any = .any := by
    induction results with
    | nil => rfl
    | cons r rest ih => rw [List.foldl_cons, widen, ite_self, ih]
  induction results with
  | nil => rfl
  | cons r rest ih =>
    cases hr : r.assignableTo t with
    | true => simp [widen, hr, ih]
    | false => simp [widen, hr, hany]

theorem fits_foldl_widen (t : Ty) (results : List Value) :
    ∀ r ∈ results, r.assignableTo (results.foldl widen t) = true := by
  rw [foldl_widen]
  split
  · rename_i hall
    exact List.all_eq_true.1 hall
  · exact fun r _ ↦ r.assignableTo_any

theorem mem_of_mem_keep {items results : List Value} {item : Value}
    (h : item ∈ keep items results) : item ∈ items := by
  obtain ⟨pair, hpair, rfl⟩ := List.mem_map.1 h
  exact (List.of_mem_zip (List.mem_filter.1 hpair).1).1

theorem itemFound_cases (v : Value) (position : Int64) : itemFound v position = .null ∨
    ∃ element items, v = .array element items ∧ itemFound v position ∈ items := by
  unfold itemFound
  split
  · exact .inl rfl
  · cases v with
    | array element items =>
      cases hi : items[position.toUInt64.toNat]? with
      | none => simp [Value.items?, hi]
      | some item =>
        refine .inr ⟨element, items, rfl, ?_⟩
        simpa [Value.items?, hi] using List.mem_of_getElem? hi
    | _ => exact .inl rfl

variable {op : Operation} {v w : Value}

theorem answer_wellTyped {seq : Sequence} {c : Contract} {p : Passing}
    (ha : op.Accepts v w seq c p) (hv : v.WellTyped) {results : List Value}
    (hresults : ∀ r ∈ results, r.WellTyped) : (op.answer v seq c results).WellTyped := by
  cases op with
  | map => exact .array (fits_foldl_widen c.primary results) hresults
  | filter =>
    rcases Sequence.ofValue_eq_ok_iff.1 ha.sequence with ⟨rfl, rfl⟩ | ⟨element, rfl, hd, -⟩
    · exact .array nofun nofun
    · have hkept : keptType seq c.param = element := by simp [keptType, hd]
      simp only [answer, hkept]
      exact .array (fun item hi ↦ hv.items_fit item (mem_of_mem_keep hi))
        (fun item hi ↦ hv.items_wellTyped item (mem_of_mem_keep hi))
  | find =>
    rcases itemFound_cases v (firstTruthy results) with h | ⟨element, items, rfl, h⟩
    · simp only [answer, h]
      exact .null
    · exact hv.items_wellTyped _ h
  | findIndex => exact .int _

def TypedCall (call : Callable × List Value) : Prop :=
  ∀ a ∈ call.2, a.WellTyped ∧
    ∃ param, call.1.signature.params = [param] ∧ a.assignableTo param = true

theorem typedCall_of_fitting {call : Callable × List Value} (hv : v.WellTyped)
    (h : Fitting v call) : TypedCall call := by
  rcases h with ⟨-, hargs⟩ | ⟨param, element, items, item, hparams, rfl, hi, hargs, hfit⟩
  · rw [TypedCall, hargs]
    nofun
  · rw [TypedCall, hargs]
    exact List.forall_mem_singleton.2
      ⟨hv.items_wellTyped item hi, param, hparams, hfit⟩

variable {σ : Type} {calls : Calls σ} {inv : σ → Prop}

theorem apply_typedCalls (calls : Calls σ) (op : Operation) (w : Value) (hv : v.WellTyped)
    (s : σ) (log : List (Callable × List Value)) :
    ∃ made, (op.apply calls.recorded v w (s, log)).2.2 = made ++ log ∧
      ∀ call ∈ made, TypedCall call := by
  obtain ⟨made, hmade, hfit⟩ := apply_recorded_fitting calls op v w s log
  exact ⟨made, hmade, fun call hcall ↦ typedCall_of_fitting hv (hfit call hcall).2⟩

theorem given_wellTyped {f : Callable} {item : Value} (h : item.WellTyped) :
    ∀ a ∈ f.given item, a.WellTyped := by
  unfold Callable.given
  split
  · nofun
  · exact List.forall_mem_singleton.2 h

theorem items_wellTyped {seq : Sequence} (hs : Sequence.ofValue v = .ok seq)
    (hv : v.WellTyped) : ∀ item ∈ seq.items, item.WellTyped := by
  rcases Sequence.ofValue_eq_ok_iff.1 hs with ⟨rfl, rfl⟩ | ⟨element, rfl, -⟩
  · nofun
  · exact hv.items_wellTyped

theorem apply_wellTyped (hv : v.WellTyped) (hw : ∀ f, w = .function f → calls.KeepsTyping inv f)
    {s t : σ} (hs : inv s) {answered : Value} (h : op.apply calls v w s = (.ok answered, t)) :
    inv t ∧ answered.WellTyped := by
  rw [apply_recorded calls op v w s []] at h
  rcases apply_cases calls op v w s [] with
    ⟨failure, -, hrun⟩ | ⟨seq, c, p, ended, t', made, ha, he, hrun⟩
  · rw [hrun] at h
    cases h
  · rw [hrun] at h
    cases ended with
    | error failure => cases h
    | ok results =>
      cases h
      have hcallable := hw _ (Contract.ofValue_eq_ok_iff.1 ha.contract).1
      have hitems := items_wellTyped ha.sequence hv
      have hkept := he.keeps (fun item hi u returned hu ↦
        hcallable _ u returned hu (given_wellTyped (hitems item hi))) hs
      exact ⟨hkept.1, answer_wellTyped ha hv hkept.2⟩

theorem apply_eq_array (hop : op = .map ∨ op = .filter) {s : σ} {answered : Value}
    (h : (op.apply calls v w s).1 = .ok answered) :
    ∃ element items, answered = .array element items := by
  rcases accepts_or_denies op v w with ⟨seq, c, p, ha⟩ | ⟨failure, hd⟩
  · rw [apply_of_accepts ha] at h
    simp only at h
    cases hran : (c.collect calls p op.stop 0 seq.items s).1 with
    | error failure => simp [hran, Except.map] at h
    | ok results =>
      simp only [hran, Except.map, Except.ok.injEq] at h
      rcases hop with rfl | rfl <;> exact ⟨_, _, h.symm⟩
  · rw [apply_of_denies hd] at h
    cases h

def chain (calls : Calls σ) : List (Operation × Value) → Value → σ → Except Failure Value × σ
  | [], v, s => (.ok v, s)
  | (op, w) :: rest, v, s =>
    match op.apply calls v w s with
    | (.ok answered, s') => chain calls rest answered s'
    | (.error failure, s') => (.error failure, s')

theorem chain_typed {steps : List (Operation × Value)} (hv : v.WellTyped)
    (hsteps : ∀ step ∈ steps, ∀ f, step.2 = .function f → calls.KeepsTyping inv f) {s : σ}
    (hs : inv s) {log : List (Callable × List Value)} (hlog : ∀ call ∈ log, TypedCall call) :
    (∀ call ∈ (chain calls.recorded steps v (s, log)).2.2, TypedCall call) ∧
      ∀ answered, (chain calls.recorded steps v (s, log)).1 = .ok answered →
        answered.WellTyped := by
  -- The log is generalised too: it holds the calls of the steps before.
  induction steps generalizing v s log with
  | nil =>
    refine ⟨hlog, fun answered h ↦ ?_⟩
    cases h
    exact hv
  | cons step rest ih =>
    obtain ⟨op, w⟩ := step
    obtain ⟨hw, hrest⟩ := List.forall_mem_cons.1 hsteps
    obtain ⟨made, hmade, hcalls⟩ := apply_typedCalls calls op w hv s log
    have happly := apply_recorded calls op v w s log
    cases hrun : op.apply calls.recorded v w (s, log) with
    | mk answered state =>
      obtain ⟨t, log'⟩ := state
      rw [hrun] at hmade happly
      have hlog' : ∀ call ∈ log', TypedCall call := by
        rw [show log' = made ++ log from hmade]
        exact List.forall_mem_append.2 ⟨hcalls, hlog⟩
      simp only [chain, hrun]
      cases answered with
      | error failure => exact ⟨hlog', nofun⟩
      | ok answered =>
        obtain ⟨ht, hanswered⟩ := apply_wellTyped hv hw hs happly
        exact ih hanswered hrest ht hlog'

theorem chain_recorded (calls : Calls σ) (steps : List (Operation × Value)) (v : Value) (s : σ)
    (log : List (Callable × List Value)) : chain calls steps v s =
      ((chain calls.recorded steps v (s, log)).1,
        (chain calls.recorded steps v (s, log)).2.1) := by
  induction steps generalizing v s log with
  | nil => rfl
  | cons step rest ih =>
    obtain ⟨op, w⟩ := step
    simp only [chain, apply_recorded calls op v w s log]
    cases op.apply calls.recorded v w (s, log) with
    | mk answered state =>
      cases answered with
      | error failure => rfl
      | ok answered => exact ih answered state.1 state.2

/-- Typing is sound. From well-typed sequences and callables that keep typing come well-typed
calls and answers, so that no operation of a chain finds a stray item in the answer before. -/
theorem typing_sound (calls : Calls σ) (inv : σ → Prop) {v : Value} (hv : v.WellTyped) {s : σ}
    (hs : inv s) :
    (∀ (op : Operation) (w : Value), (∀ f, w = .function f → calls.KeepsTyping inv f) →
      (∀ call ∈ (op.apply calls.recorded v w (s, [])).2.2, TypedCall call) ∧
      ∀ answered, (op.apply calls v w s).1 = .ok answered → answered.WellTyped ∧
        (op = .map ∨ op = .filter → ∃ seq, Sequence.ofValue answered = .ok seq)) ∧
    ∀ steps : List (Operation × Value),
      (∀ step ∈ steps, ∀ f, step.2 = .function f → calls.KeepsTyping inv f) →
      (∀ call ∈ (chain calls.recorded steps v (s, [])).2.2, TypedCall call) ∧
      ∀ answered, (chain calls steps v s).1 = .ok answered → answered.WellTyped ∧
        ∀ index expected found,
          Sequence.ofValue answered ≠ .error (.elementNotAssignable index expected found) := by
  refine ⟨fun op w hw ↦ ⟨?_, fun answered h ↦ ?_⟩, fun steps hsteps ↦ ?_⟩
  · obtain ⟨made, hmade, hcalls⟩ := apply_typedCalls calls op w hv s []
    rwa [hmade, List.append_nil]
  · obtain ⟨-, hanswered⟩ := apply_wellTyped hv hw hs (Prod.ext h rfl)
    refine ⟨hanswered, fun hop ↦ ?_⟩
    obtain ⟨element, items, rfl⟩ := apply_eq_array hop h
    exact ⟨_, hanswered.accepted⟩
  · have hnone : ∀ call ∈ ([] : List (Callable × List Value)), TypedCall call := nofun
    obtain ⟨hcalls, hanswered⟩ := chain_typed hv hsteps hs hnone
    refine ⟨hcalls, fun answered h ↦ ?_⟩
    rw [chain_recorded calls steps v s []] at h
    exact ⟨hanswered answered h, (hanswered answered h).not_stray⟩

end Operation

theorem Host.demo_keepsTyping {σ : Type} (h : Host σ) (inv : σ → Prop) (d : Demo)
    (identity : Nat) : h.calls.KeepsTyping inv (d.callable identity) := by
  intro args s results hs _ hreturned
  have hrun : d.run args = results := by
    cases hreturned
    rfl
  refine ⟨hs, ?_⟩
  rw [← hrun]
  unfold Demo.run
  split <;> refine List.forall_mem_singleton.2 ?_ <;> constructor

def Host.delaying : Host Value where
  fresh last := (0, last)
  results _ args last := (.returned [last], args.headD last)
  fallible _ _ last := (.returned (.ok .null), last)

def Callable.delay : Callable :=
  ⟨"delay", ⟨[.int], [.int]⟩, ⟨1, .results⟩⟩

theorem Host.delay_keepsTyping : delaying.calls.KeepsTyping Value.WellTyped .delay := by
  intro args last results hlast hargs hreturned
  cases hreturned
  refine ⟨?_, List.forall_mem_singleton.2 hlast⟩
  cases args with
  | nil => exact hlast
  | cons a rest => exact hargs a List.mem_cons_self

namespace Operation

theorem filter_delay_typed :
    (Value.array .any [.int 1, .int 2, .int 5]).WellTyped ∧ (Value.int 0).WellTyped ∧
      Host.delaying.calls.KeepsTyping Value.WellTyped (Demo.odd.callable 0) ∧
      Host.delaying.calls.KeepsTyping Value.WellTyped .delay ∧
      (chain Host.delaying.calls [(filter, .function (Demo.odd.callable 0)),
        (map, .function .delay)] (.array .any [.int 1, .int 2, .int 5]) (.int 0)).1 =
        .ok (.array .int [.int 0, .int 1]) ∧
      (Value.array .int [.int 0, .int 1]).WellTyped := by
  have hv : (Value.array .any [.int 1, .int 2, .int 5]).WellTyped := by
    refine .array (fun item _ ↦ item.assignableTo_any) ?_
    simp only [List.forall_mem_cons]
    exact ⟨.int 1, .int 2, .int 5, nofun⟩
  have hodd := Host.delaying.demo_keepsTyping Value.WellTyped .odd 0
  refine ⟨hv, .int 0, hodd, Host.delay_keepsTyping, rfl, ?_⟩
  refine (((typing_sound Host.delaying.calls Value.WellTyped hv (.int 0)).2
    [(filter, .function (Demo.odd.callable 0)), (map, .function .delay)] ?_).2 _ rfl).1
  simp only [List.forall_mem_cons]
  refine ⟨fun f hf ↦ ?_, fun f hf ↦ ?_, nofun⟩ <;> cases hf
  · exact hodd
  · exact Host.delay_keepsTyping

end Operation

end DynSeq
