import DynSeq.Proofs.Acceptance

namespace DynSeq

namespace Callable

variable {σ : Type} (calls : Calls σ) (f : Callable) (seq : Sequence) (stop : Value → Bool)

def given (item : Value) : List Value :=
  match f.signature.params with
  | [] => []
  | _ => [item]

/-- An item of an open sequence has to fit the parameter, if there is one. -/
def Admits (item : Value) : Prop :=
  ∀ param, f.signature.params = [param] → seq.IsOpen → item.assignableTo param = true

def AdmitsFirst (count : Nat) : Prop :=
  ∀ i < count, ∀ item, seq.items[i]? = some item → Admits f seq item

/-- What the outcome of the call for the item at `index` amounts to. A panic counts before the
number of results, and that number before the second result. -/
inductive Reads (index : Nat) : Outcome (List Value) → Except Failure Value → Prop
  | panickedText (text : String) (identity : Nat) : Reads index (.panicked ⟨some text, identity⟩)
      (.error (.callableFailed index (.mk identity (.message ("panicked: " ++ text)))))
  | panicked (identity : Nat) : Reads index (.panicked ⟨none, identity⟩)
      (.error (.callableFailed index (.mk identity (.message "panicked"))))
  | miscounted (results : List Value) (h : results.length ≠ f.signature.results.length) :
      Reads index (.returned results) (.error (.badOutputArity results.length (some index)))
  | alone (primary : Value) (h : f.signature.results.length = 1) :
      Reads index (.returned [primary]) (.ok primary)
  | clean (primary : Value) (h : f.signature.results.length = 2) :
      Reads index (.returned [primary, .null]) (.ok primary)
  | failed (primary : Value) (e : ErrorValue) (h : f.signature.results.length = 2) :
      Reads index (.returned [primary, .error e]) (.error (.callableFailed index e))
  | notError (primary second : Value) (h : f.signature.results.length = 2)
      (hn : second ≠ .null) (he : ∀ e, second ≠ .error e) :
      Reads index (.returned [primary, second])
        (.error (.secondReturnNotError second.typeName (some index)))

/-- One call of a run: the item at the index is admitted and passed, and the outcome is judged. -/
structure Turn (index : Nat) (item : Value) (t : σ) (judged : Except Failure Value) (t' : σ) :
    Prop where
  getElem : seq.items[index]? = some item
  admits : f.Admits seq item
  reads : f.Reads index (calls f (f.given item) t).1 judged
  leaves : (calls f (f.given item) t).2 = t'

/-- A run in progress: the items before the index have been passed to the callable one after the
other, once each, and each time there was a result on which the run goes on. -/
inductive Reaches (s : σ) : Nat → σ → List (Callable × List Value) → List Value → Prop
  | start : Reaches s 0 s [] []
  | next {index : Nat} {t t' : σ} {made : List (Callable × List Value)} {results : List Value}
      {item result : Value} :
      Reaches s index t made results → Turn calls f seq index item t (.ok result) t' →
      stop result = false →
      Reaches s (index + 1) t' ((f, f.given item) :: made) (results ++ [result])

/-- The end of a run: all items are done, the next item is not admitted and not passed, its call
fails, or its call gives a result that stops the run. -/
inductive Ends (s : σ) :
    Except Failure (List Value) → σ → List (Callable × List Value) → Prop
  | exhausted {t : σ} {made : List (Callable × List Value)} {results : List Value} :
      Reaches calls f seq stop s seq.items.length t made results → Ends s (.ok results) t made
  | stray {index : Nat} {t : σ} {made : List (Callable × List Value)} {results : List Value}
      {item : Value} {param : Ty} :
      Reaches calls f seq stop s index t made results → seq.items[index]? = some item →
      f.signature.params = [param] → seq.IsOpen → item.assignableTo param = false →
      Ends s (.error (.elementNotAssignable index param item.typeName)) t made
  | failed {index : Nat} {t t' : σ} {made : List (Callable × List Value)} {results : List Value}
      {item : Value} {failure : Failure} :
      Reaches calls f seq stop s index t made results →
      Turn calls f seq index item t (.error failure) t' →
      Ends s (.error failure) t' ((f, f.given item) :: made)
  | stopped {index : Nat} {t t' : σ} {made : List (Callable × List Value)} {results : List Value}
      {item result : Value} :
      Reaches calls f seq stop s index t made results →
      Turn calls f seq index item t (.ok result) t' → stop result = true →
      Ends s (.ok (results ++ [result])) t' ((f, f.given item) :: made)

def callsFor (items : List Value) : List (Callable × List Value) :=
  (items.map fun item ↦ (f, f.given item)).reverse

variable {calls f seq stop}

theorem Reads.exists_returned {index : Nat} {outcome : Outcome (List Value)} {result : Value}
    (h : f.Reads index outcome (.ok result)) :
    ∃ rest, outcome = .returned (result :: rest) := by
  cases h with
  | alone => exact ⟨[], rfl⟩
  | clean => exact ⟨[.null], rfl⟩

theorem Turn.index_lt {index : Nat} {item : Value} {t t' : σ} {judged : Except Failure Value}
    (h : f.Turn calls seq index item t judged t') : index < seq.items.length :=
  (List.getElem?_eq_some_iff.1 h.getElem).1

theorem Turn.mem {index : Nat} {item : Value} {t t' : σ} {judged : Except Failure Value}
    (h : f.Turn calls seq index item t judged t') : item ∈ seq.items :=
  List.mem_of_getElem? h.getElem

theorem Turn.callsFor_eq {index : Nat} {item : Value} {t t' : σ} {judged : Except Failure Value}
    (h : f.Turn calls seq index item t judged t') : f.callsFor (seq.items.take (index + 1)) =
      (f, f.given item) :: f.callsFor (seq.items.take index) := by
  simp [callsFor, List.take_add_one, h.getElem]

theorem Reaches.index_le {s t : σ} {index : Nat} {made : List (Callable × List Value)}
    {results : List Value} (h : f.Reaches calls seq stop s index t made results) :
    index ≤ seq.items.length := by
  cases h with
  | start => exact Nat.zero_le _
  | next _ hturn => exact hturn.index_lt

theorem Reaches.made_eq {s t : σ} {index : Nat} {made : List (Callable × List Value)}
    {results : List Value} (h : f.Reaches calls seq stop s index t made results) :
    made = f.callsFor (seq.items.take index) := by
  induction h with
  | start => simp [callsFor]
  | next h hturn hstop ih => rw [hturn.callsFor_eq, ih]

theorem Ends.made_eq {s t : σ} {made : List (Callable × List Value)}
    {ended : Except Failure (List Value)} (h : f.Ends calls seq stop s ended t made) :
    ∃ count ≤ seq.items.length, made = f.callsFor (seq.items.take count) := by
  cases h with
  | exhausted h | stray h => exact ⟨_, h.index_le, h.made_eq⟩
  | failed h hturn | stopped h hturn =>
    exact ⟨_, hturn.index_lt, by rw [hturn.callsFor_eq, h.made_eq]⟩

theorem Reaches.call_admitted {s t : σ} {index : Nat} {made : List (Callable × List Value)}
    {results : List Value} (h : f.Reaches calls seq stop s index t made results) :
    ∀ call ∈ made, ∃ item ∈ seq.items, f.Admits seq item ∧ call = (f, f.given item) := by
  induction h with
  | start => nofun
  | next h hturn hstop ih =>
    exact List.forall_mem_cons.2 ⟨⟨_, hturn.mem, hturn.admits, rfl⟩, ih⟩

theorem Ends.call_admitted {s t : σ} {made : List (Callable × List Value)}
    {ended : Except Failure (List Value)} (h : f.Ends calls seq stop s ended t made) :
    ∀ call ∈ made, ∃ item ∈ seq.items, f.Admits seq item ∧ call = (f, f.given item) := by
  cases h with
  | exhausted h | stray h => exact h.call_admitted
  | failed h hturn | stopped h hturn =>
    exact List.forall_mem_cons.2 ⟨⟨_, hturn.mem, hturn.admits, rfl⟩, h.call_admitted⟩

theorem Turn.admitsFirst {index : Nat} {turned : Value} {t t' : σ}
    {judged : Except Failure Value} (h : f.Turn calls seq index turned t judged t')
    (hbefore : f.AdmitsFirst seq index) : f.AdmitsFirst seq (index + 1) := by
  intro i hi item hitem
  by_cases hlt : i < index
  · exact hbefore i hlt item hitem
  · have heq : i = index := by omega
    have hsame : some item = some turned := by rw [← hitem, heq, h.getElem]
    cases hsame
    exact h.admits

theorem Reaches.admitsFirst {s t : σ} {index : Nat} {made : List (Callable × List Value)}
    {results : List Value} (h : f.Reaches calls seq stop s index t made results) :
    f.AdmitsFirst seq index := by
  induction h with
  | start =>
    intro i hi
    exact absurd hi (Nat.not_lt_zero i)
  | next h hturn hstop ih => exact hturn.admitsFirst ih

theorem Reaches.length_results {s t : σ} {index : Nat} {made : List (Callable × List Value)}
    {results : List Value} (h : f.Reaches calls seq stop s index t made results) :
    results.length = index := by
  induction h with
  | start => rfl
  | next h hturn hstop ih => rw [List.length_append, ih, List.length_singleton]

theorem Ends.results_admitted {s t : σ} {made : List (Callable × List Value)}
    {results : List Value} (h : f.Ends calls seq stop s (.ok results) t made) :
    results.length ≤ seq.items.length ∧ f.AdmitsFirst seq results.length := by
  cases h with
  | exhausted h =>
    rw [h.length_results]
    exact ⟨Nat.le_refl _, h.admitsFirst⟩
  | stopped h hturn hstop =>
    rw [List.length_append, h.length_results, List.length_singleton]
    exact ⟨hturn.index_lt, hturn.admitsFirst h.admitsFirst⟩

theorem Turn.exists_turn {index : Nat} {item result : Value} {t t' : σ} {results : List Value}
    (h : f.Turn calls seq index item t (.ok result) t') (hlength : results.length = index)
    (hbefore : ∀ {i r}, results[i]? = some r → ∃ item u u', f.Turn calls seq i item u (.ok r) u')
    {i : Nat} {r : Value} (hr : (results ++ [result])[i]? = some r) :
    ∃ item u u', f.Turn calls seq i item u (.ok r) u' := by
  subst hlength
  by_cases hlt : i < results.length
  · rw [List.getElem?_append_left hlt] at hr
    exact hbefore hr
  · obtain ⟨hbound, -⟩ := List.getElem?_eq_some_iff.1 hr
    rw [List.length_append, List.length_singleton] at hbound
    have heq : i = results.length := by omega
    subst heq
    rw [List.getElem?_concat_length] at hr
    cases hr
    exact ⟨item, t, t', h⟩

theorem Reaches.exists_turn {s t : σ} {index : Nat} {made : List (Callable × List Value)}
    {results : List Value} (h : f.Reaches calls seq stop s index t made results) {i : Nat}
    {r : Value} (hr : results[i]? = some r) :
    ∃ item u u', f.Turn calls seq i item u (.ok r) u' := by
  induction h generalizing i r with
  | start => cases hr
  | next h hturn hstop ih => exact hturn.exists_turn h.length_results ih hr

theorem Ends.exists_turn {s t : σ} {made : List (Callable × List Value)} {results : List Value}
    (h : f.Ends calls seq stop s (.ok results) t made) {i : Nat} {r : Value}
    (hr : results[i]? = some r) : ∃ item u u', f.Turn calls seq i item u (.ok r) u' := by
  cases h with
  | exhausted h => exact h.exists_turn hr
  | stopped h hturn hstop => exact hturn.exists_turn h.length_results h.exists_turn hr

theorem Ends.length_of_never (hnever : ∀ r, stop r = false) {s t : σ}
    {made : List (Callable × List Value)} {results : List Value}
    (h : f.Ends calls seq stop s (.ok results) t made) : results.length = seq.items.length := by
  cases h with
  | exhausted h => exact h.length_results
  | stopped h hturn hstop => simp [hnever] at hstop

theorem given_of_nil {f : Callable} (h : f.signature.params = []) (item : Value) :
    f.given item = [] := by
  simp only [given, h]

theorem given_of_singleton {f : Callable} {param : Ty} (h : f.signature.params = [param])
    (item : Value) : f.given item = [item] := by
  simp only [given, h]

end Callable

namespace Contract

variable {σ : Type} {calls : Calls σ} {c : Contract} {seq : Sequence} {p : Passing}
  {stop : Value → Bool} {purpose : Purpose} {v w : Value}

theorem primaryOf_of_reads (hc : ofValue purpose w = .ok c) {index : Nat}
    {outcome : Outcome (List Value)} {judged : Except Failure Value}
    (h : c.callable.Reads index outcome judged) : c.primaryOf index outcome = judged := by
  have hcount := outCount_eq hc
  cases h with
  | panickedText text identity => rfl
  | panicked identity => rfl
  | miscounted results h => simp [primaryOf, hcount, h]
  | alone primary h => simp [primaryOf, hcount, h]
  | clean primary h => simp [primaryOf, hcount, h]
  | failed primary e h => simp [primaryOf, hcount, h]
  | notError primary second h hn he =>
    cases second <;> simp_all [primaryOf]

theorem exists_reads (hc : ofValue purpose w = .ok c) (index : Nat)
    (outcome : Outcome (List Value)) : ∃ judged, c.callable.Reads index outcome judged := by
  have hcount := outCount_eq hc
  cases outcome with
  | panicked panic =>
    obtain ⟨_ | text, identity⟩ := panic
    · exact ⟨_, .panicked identity⟩
    · exact ⟨_, .panickedText text identity⟩
  | returned results =>
    by_cases h : results.length = c.callable.signature.results.length
    · have htwo : c.outCount = 1 ∨ c.outCount = 2 := by
        cases hch : c.hasErrorChannel <;> simp [outCount, hch]
      rcases results with _ | ⟨primary, _ | ⟨second, _ | ⟨third, rest⟩⟩⟩
      · simp only [List.length_nil] at h
        omega
      · exact ⟨_, .alone primary h.symm⟩
      · by_cases hn : second = .null
        · subst hn
          exact ⟨_, .clean primary h.symm⟩
        · by_cases he : ∃ e, second = .error e
          · obtain ⟨e, rfl⟩ := he
            exact ⟨_, .failed primary e h.symm⟩
          · exact ⟨_, .notError primary second h.symm hn (not_exists.1 he)⟩
      · simp only [List.length_cons] at h
        omega
    · exact ⟨_, .miscounted results h⟩

theorem reads_iff (hc : ofValue purpose w = .ok c) {index : Nat}
    {outcome : Outcome (List Value)} {judged : Except Failure Value} :
    c.callable.Reads index outcome judged ↔ c.primaryOf index outcome = judged := by
  refine ⟨primaryOf_of_reads hc, ?_⟩
  rintro rfl
  obtain ⟨judged, h⟩ := exists_reads hc index outcome
  exact (primaryOf_of_reads hc h).symm ▸ h

theorem arguments_eq (hs : Sequence.ofValue v = .ok seq) (hc : ofValue purpose w = .ok c)
    (hp : Passing.choose seq c.param = .ok p) {item : Value} (hi : item ∈ seq.items)
    (index : Nat) :
    c.callable.Admits seq item ∧ p.arguments index item = .ok (c.callable.given item) ∨
    ∃ param, c.callable.signature.params = [param] ∧ seq.IsOpen ∧
      item.assignableTo param = false ∧
      p.arguments index item = .error (.elementNotAssignable index param item.typeName) := by
  obtain ⟨-, hparams, -⟩ := ofValue_eq_ok_iff.1 hc
  obtain ⟨element, hd⟩ := Sequence.declared_eq_some hs hi
  obtain ⟨items, declared⟩ := seq
  cases hd
  cases hparam : c.param with
  | none =>
    rw [hparam] at hp hparams
    cases hp
    refine .inl ⟨fun param h ↦ ?_, ?_⟩
    · simp [hparams] at h
    · rw [c.callable.given_of_nil hparams]
      rfl
  | some param =>
    rw [hparam] at hp hparams
    rw [c.callable.given_of_singleton hparams]
    simp only [Passing.choose, Sequence.static?_eq] at hp
    cases hopen : element.isInterface with
    | false =>
      simp only [hopen, Bool.false_eq_true, if_false] at hp
      split at hp <;> cases hp
      refine .inl ⟨fun param' _ h ↦ ?_, rfl⟩
      simp [Sequence.isOpen_iff, hopen] at h
    | true =>
      simp only [hopen, if_true] at hp
      cases hp
      cases hfit : item.assignableTo param with
      | false =>
        refine .inr ⟨param, hparams, Sequence.isOpen_iff.2 hopen, hfit, ?_⟩
        simp [Passing.arguments, hfit]
      | true =>
        refine .inl ⟨fun param' h _ ↦ ?_, by simp [Passing.arguments, hfit]⟩
        cases hparams.symm.trans h
        exact hfit

theorem collect_drop {item : Value} {index : Nat} {items : List Value}
    (hi : items[index]? = some item) (s : σ) :
    collect calls c p stop index (items.drop index) s =
      match step calls c p index item s with
      | (.error failure, s') => (.error failure, s')
      | (.ok result, s') =>
        if stop result then (.ok [result], s')
        else
          let (results, s'') := collect calls c p stop (index + 1) (items.drop (index + 1)) s'
          (results.map (result :: ·), s'') := by
  obtain ⟨hlt, rfl⟩ := List.getElem?_eq_some_iff.1 hi
  rw [List.drop_eq_getElem_cons hlt]
  rfl

section Accepted

variable (hs : Sequence.ofValue v = .ok seq) (hc : ofValue purpose w = .ok c)
  (hp : Passing.choose seq c.param = .ok p)
include hs hc hp

theorem step_of_turn {item : Value} {index : Nat} {t t' : σ} {judged : Except Failure Value}
    (h : c.callable.Turn calls seq index item t judged t')
    (log : List (Callable × List Value)) :
    step calls.recorded c p index item (t, log) =
      (judged, t', (c.callable, c.callable.given item) :: log) := by
  rcases arguments_eq hs hc hp h.mem index with ⟨-, hargs⟩ | ⟨param, hparams, hopen, hfit, -⟩
  · simp only [step, hargs, Calls.recorded, Calls.noted, Exchange.call, (reads_iff hc).1 h.reads,
      h.leaves]
  · simp [h.admits param hparams hopen] at hfit

theorem step_of_stray {item : Value} {index : Nat} {param : Ty}
    (hi : seq.items[index]? = some item) (hparams : c.callable.signature.params = [param])
    (hopen : seq.IsOpen) (hfit : item.assignableTo param = false) (s : σ) :
    step calls c p index item s =
      (.error (.elementNotAssignable index param item.typeName), s) := by
  rcases arguments_eq hs hc hp (List.mem_of_getElem? hi) index with
    ⟨ha, -⟩ | ⟨param', hparams', -, -, hargs⟩
  · simp [ha param hparams hopen] at hfit
  · cases hparams.symm.trans hparams'
    simp only [step, hargs]

theorem collect_of_reaches {s t : σ} {index : Nat} {made log : List (Callable × List Value)}
    {results : List Value}
    (h : c.callable.Reaches calls seq stop s index t made results) :
    collect calls.recorded c p stop 0 seq.items (s, log) =
      let (rest, end') :=
        collect calls.recorded c p stop index (seq.items.drop index) (t, made ++ log)
      (rest.map (results ++ ·), end') := by
  induction h with
  | start =>
    cases h : collect calls.recorded c p stop 0 seq.items (s, log) with
    | mk rest end' => cases rest <;> simp [h, Except.map]
  | next h hturn hstop ih =>
    rw [ih, collect_drop hturn.getElem, step_of_turn hs hc hp hturn]
    simp only [hstop, Bool.false_eq_true, if_false]
    cases h : collect calls.recorded c p stop _ _ _ with
    | mk rest end' => cases rest <;> simp [h, Except.map]

theorem collect_of_ends {s t : σ} {made log : List (Callable × List Value)}
    {ended : Except Failure (List Value)}
    (h : c.callable.Ends calls seq stop s ended t made) :
    collect calls.recorded c p stop 0 seq.items (s, log) = (ended, t, made ++ log) := by
  cases h with
  | exhausted h =>
    rw [collect_of_reaches hs hc hp h, List.drop_length]
    simp [collect, Except.map]
  | stray h hi hparams hopen hfit =>
    rw [collect_of_reaches hs hc hp h, collect_drop hi,
      step_of_stray hs hc hp hi hparams hopen hfit]
    rfl
  | failed h hturn =>
    rw [collect_of_reaches hs hc hp h, collect_drop hturn.getElem, step_of_turn hs hc hp hturn]
    rfl
  | stopped h hturn hstop =>
    rw [collect_of_reaches hs hc hp h, collect_drop hturn.getElem, step_of_turn hs hc hp hturn]
    simp [hstop, Except.map]

end Accepted

theorem exists_ends_of_reaches (hc : ofValue purpose w = .ok c) {s t : σ} {index : Nat}
    {made : List (Callable × List Value)} {results : List Value}
    (h : c.callable.Reaches calls seq stop s index t made results) :
    ∃ ended t' made', c.callable.Ends calls seq stop s ended t' made' := by
  have hle := h.index_le
  induction hn : seq.items.length - index generalizing index t made results with
  | zero =>
    have hi : index = seq.items.length := by omega
    exact ⟨_, _, _, .exhausted (hi ▸ h)⟩
  | succ n ih =>
    have hi := List.getElem?_eq_getElem (show index < seq.items.length by omega)
    by_cases ha : c.callable.Admits seq seq.items[index]
    · obtain ⟨judged, hr⟩ := exists_reads hc index
        (calls c.callable (c.callable.given seq.items[index]) t).1
      cases judged with
      | error failure => exact ⟨_, _, _, .failed h ⟨hi, ha, hr, rfl⟩⟩
      | ok result =>
        cases hstop : stop result with
        | true => exact ⟨_, _, _, .stopped h ⟨hi, ha, hr, rfl⟩ hstop⟩
        | false => exact ih (.next h ⟨hi, ha, hr, rfl⟩ hstop) (by omega) (by omega)
    · simp only [Callable.Admits, Classical.not_forall, Bool.not_eq_true] at ha
      obtain ⟨param, hparams, hopen, hfit⟩ := ha
      exact ⟨_, _, _, .stray h hi hparams hopen hfit⟩

theorem exists_ends (calls : Calls σ) (seq : Sequence) (stop : Value → Bool)
    (hc : ofValue purpose w = .ok c) (s : σ) :
    ∃ ended t made, c.callable.Ends calls seq stop s ended t made :=
  exists_ends_of_reaches hc .start

end Contract

end DynSeq
