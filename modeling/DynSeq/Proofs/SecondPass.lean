import DynSeq.Proofs.DemoRun
import DynSeq.Proofs.Labels

namespace DynSeq

namespace Value

mutual
/-- A value without the identities that it carries. A function or an error that is made anew in
each call is another one each time, even if all else is the same. -/
def anonymous : Value → Value
  | .null => .null
  | .bool b => .bool b
  | .int n => .int n
  | .float x => .float x
  | .string s => .string s
  | .array element items => .array element (anonymousAll items)
  | .function f => .function { f with implementation := ⟨0, f.implementation.routine⟩ }
  | .error e => .error (.mk 0 (.message e.text))
def anonymousAll : List Value → List Value
  | [] => []
  | v :: vs => anonymous v :: anonymousAll vs
end

theorem anonymous_eq_null_iff {v : Value} : v.anonymous = .null ↔ v = .null := by
  cases v <;> simp [anonymous]

theorem anonymous_eq_bool_iff {v : Value} {b : Bool} : v.anonymous = .bool b ↔ v = .bool b := by
  cases v <;> simp [anonymous]

theorem anonymousAll_eq_singleton {v : Value} {vs : List Value} (h : anonymousAll vs = [v]) :
    ∃ u, vs = [u] ∧ u.anonymous = v := by
  rcases vs with _ | ⟨u, _ | ⟨u', rest⟩⟩ <;> cases h
  exact ⟨u, rfl, rfl⟩

theorem anonymousAll_eq_pair {v w : Value} {vs : List Value} (h : anonymousAll vs = [v, w]) :
    ∃ u u', vs = [u, u'] ∧ u.anonymous = v ∧ u'.anonymous = w := by
  rcases vs with _ | ⟨u, _ | ⟨u', _ | ⟨u'', rest⟩⟩⟩ <;> cases h
  exact ⟨u, u', rfl, rfl, rfl⟩

end Value

def Outcome.anonymous : Outcome (List Value) → Outcome (List Value)
  | .returned results => .returned (Value.anonymousAll results)
  | .panicked panic => .panicked ⟨panic.text, 0⟩

/-- The outcome of a call depends on nothing but the arguments. What the callable has done before
may show only in the state and in the identity of what a call makes anew. -/
def Calls.Stateless {σ : Type} (calls : Calls σ) (f : Callable) : Prop :=
  ∀ args s t, (calls f args s).1.anonymous = (calls f args t).1.anonymous

namespace Callable

variable {σ : Type} {calls : Calls σ} {f : Callable}

theorem Reads.true_of_anonymous {index index' : Nat} {outcome outcome' : Outcome (List Value)}
    (h : f.Reads index outcome (.ok (.bool true)))
    (hsame : outcome.anonymous = outcome'.anonymous) :
    f.Reads index' outcome' (.ok (.bool true)) := by
  cases outcome' with
  | panicked panic => cases h <;> cases hsame
  | returned results =>
    cases h with
    | alone _ hcount =>
      obtain ⟨u, rfl, hu⟩ := Value.anonymousAll_eq_singleton (Outcome.returned.inj hsame).symm
      rw [Value.anonymous_eq_bool_iff.1 hu]
      exact .alone _ hcount
    | clean _ hcount =>
      obtain ⟨u, u', rfl, hu, hu'⟩ := Value.anonymousAll_eq_pair (Outcome.returned.inj hsame).symm
      rw [Value.anonymous_eq_bool_iff.1 hu, Value.anonymous_eq_null_iff.1 hu']
      exact .clean _ hcount

/-- The callable takes every item and says `true` to it, whatever was called before. -/
structure Welcomes (calls : Calls σ) (f : Callable) (items : List Value) : Prop where
  fits : ∀ param, f.signature.params = [param] → ∀ item ∈ items, item.assignableTo param = true
  reads : ∀ item ∈ items, ∀ index s,
    f.Reads index (calls f (f.given item) s).1 (.ok (.bool true))

end Callable

namespace Operation

variable {σ : Type} {calls : Calls σ} {op : Operation} {v : Value} {f : Callable}
  {seq : Sequence} {c : Contract} {p : Passing} {s : σ} {items results : List Value}

theorem answer_of_welcomes (ha : op.Accepts v (.function f) seq c p)
    (h : f.Welcomes calls seq.items) (s : σ) : (op.apply calls v (.function f) s).1 =
      .ok (op.answer v seq c (seq.items.map fun _ ↦ .bool true)) := by
  have hcallable := Contract.callable_eq ha.contract
  refine answer_of_never ha (Contract.collect_of_steps ?_ 0 s)
  intro item hitem index t
  rcases Contract.arguments_eq ha.sequence ha.contract ha.passing hitem index with
    ⟨-, hargs⟩ | ⟨param, hparams, -, hfit, -⟩
  · have hreads := h.reads item hitem index t
    rw [← hcallable] at hreads
    simp only [Contract.step, hargs, (Contract.reads_iff ha.contract).1 hreads]
  · rw [hcallable] at hparams
    simp [h.fits param hparams item hitem] at hfit

section Welcomed

variable (items)

theorem keep_of_true : keep items (items.map fun _ ↦ .bool true) = items := by
  have hkeep := keep_map id (fun _ ↦ .bool true) items
  rw [List.map_id, List.map_id] at hkeep
  rw [hkeep]
  exact List.filter_eq_self.2 fun _ _ ↦ rfl

theorem firstTruthy_of_true : firstTruthy (items.map fun _ ↦ .bool true) =
    if items.isEmpty then -1 else 0 := by
  rw [firstTruthy_map]
  cases items <;> rfl

theorem label_of_true : label .bool (items.map fun _ ↦ .bool true) =
    .array .bool (List.replicate items.length (.bool true)) := by
  rw [label, List.map_const', foldl_widen, if_pos]
  simp [Value.assignableTo, Value.runtimeType?, Ty.assignableTo_refl]

end Welcomed

section Kept

variable (ha : filter.Accepts v (.function f) seq c p)
include ha

theorem static?_of_kept {item : Value} (hitem : item ∈ keep seq.items results)
    (hclosed : (keptType seq c.param).isInterface = false) :
    seq.static? = some (keptType seq c.param) := by
  obtain ⟨element, hd⟩ := Sequence.declared_eq_some ha.sequence (mem_of_mem_keep hitem)
  have htype : keptType seq c.param = element := by simp [keptType, hd]
  rw [htype] at hclosed ⊢
  simp [Sequence.static?, hd, hclosed]

theorem kept_sequence (results : List Value) :
    Sequence.ofValue (.array (keptType seq c.param) (keep seq.items results)) =
      .ok ⟨keep seq.items results, some (keptType seq c.param)⟩ := by
  refine Sequence.ofValue_array_eq_ok_iff.2 ⟨rfl, ?_⟩
  intro hclosed item hitem
  have hstatic := static?_of_kept ha hitem hclosed
  exact Sequence.assignableTo_static ha.sequence hstatic item (mem_of_mem_keep hitem)

theorem kept_passing (results : List Value) (failure : Failure) :
    Passing.choose ⟨keep seq.items results, some (keptType seq c.param)⟩ c.param ≠
      .error failure := by
  intro hp
  obtain ⟨param, element, hparam, hstatic, hitems, hne, hany, -⟩ :=
    Passing.choose_eq_error_iff.1 hp
  rw [Sequence.static?_eq] at hstatic
  split at hstatic
  · cases hstatic
  · rename_i hclosed
    cases hstatic
    obtain ⟨item, hitem⟩ := List.exists_mem_of_ne_nil _ hitems
    have herror := Passing.choose_eq_error_iff.2 ⟨param, _, hparam,
      static?_of_kept ha hitem (Bool.eq_false_iff.2 hclosed),
      List.ne_nil_of_mem (mem_of_mem_keep hitem), hne, hany, rfl⟩
    cases ha.passing.symm.trans herror

theorem kept_accepted (results : List Value) :
    ∃ q, ∀ op : Operation, op.Accepts (.array (keptType seq c.param) (keep seq.items results))
      (.function f) ⟨keep seq.items results, some (keptType seq c.param)⟩ c q := by
  have hs := kept_sequence ha results
  rcases all_accept_or_deny (.array (keptType seq c.param) (keep seq.items results))
    ha.contract with ⟨seq', q, haccepts⟩ | ⟨failure, hdenies⟩
  · cases hs.symm.trans (haccepts filter).sequence
    exact ⟨q, haccepts⟩
  · cases hdenies filter with
    | sequence hs' => cases hs.symm.trans hs'
    | contract _ _ hc => cases ha.contract.symm.trans hc
    | passing seq' c' hs' hc hp =>
      cases hs.symm.trans hs'
      cases ha.contract.symm.trans hc
      exact absurd hp (kept_passing ha results failure)

theorem kept_welcome (hstateless : calls.Stateless f) {t : σ}
    {made : List (Callable × List Value)}
    (he : c.callable.Ends calls seq filter.stop s (.ok results) t made) :
    f.Welcomes calls (keep seq.items results) := by
  constructor
  · intro param hparams item hitem
    exact (kept_admitted ha he hitem).2 f param rfl hparams
  · intro item hitem index s'
    rw [Contract.callable_eq ha.contract] at he
    obtain ⟨i, r, hi, hr, htruthy⟩ := exists_truthy_of_mem_keep hitem
    obtain ⟨turned, u, u', hturn⟩ := he.exists_turn hr
    cases hi.symm.trans hturn.getElem
    rw [Value.isTruthy_iff.1 htruthy] at hturn
    exact hturn.reads.true_of_anonymous (hstateless _ u s')

end Kept

/-- Filtering again changes nothing, neither the items nor their declared type. What a predicate has
accepted once it accepts again, so that mapping gives `true` for each item and a search ends at the
first. -/
theorem filter_idempotent {kept : Value} (hstateless : calls.Stateless f)
    (hkept : (filter.apply calls v (.function f) s).1 = .ok kept) (t : σ) :
    ∃ element items, kept = .array element items ∧
      (filter.apply calls kept (.function f) t).1 = .ok kept ∧
      (map.apply calls kept (.function f) t).1 =
        .ok (.array .bool (List.replicate items.length (.bool true))) ∧
      (findIndex.apply calls kept (.function f) t).1 =
        .ok (.int (if items.isEmpty then -1 else 0)) := by
  obtain ⟨seq, c, p, results, u, made, ha, he, rfl⟩ := ends_of_answered hkept
  obtain ⟨q, haccepts⟩ := kept_accepted ha results
  have hwelcomes := kept_welcome ha hstateless he
  have hanswer : ∀ op : Operation, _ := fun op ↦ answer_of_welcomes (haccepts op) hwelcomes t
  refine ⟨keptType seq c.param, keep seq.items results, rfl, ?_, ?_, ?_⟩
  · rw [answer, hanswer, answer, keep_of_true]
    rfl
  · have hprimary : c.primary = .bool := by
      rcases suits_iff.1 (Contract.ofValue_eq_ok_iff.1 ha.contract).2.2.2 with hmap | hbool
      · cases hmap
      · exact hbool
    rw [answer, hanswer, answer, hprimary, label_of_true]
  · rw [answer, hanswer, answer, firstTruthy_of_true]

def judgeBlank (identity : Nat) : List Value → List Value
  | [.null] => [.bool true, .null]
  | [.string text] => [.null, .error (.mk identity (.message text))]
  | _ => [.bool false, .null]

def tallying : Host Nat :=
  { Host.alone with results := fun _ args count ↦ (.returned (judgeBlank count args), count + 1) }

def blank : Callable :=
  ⟨"blank", ⟨[.any], [.bool, .error]⟩, ⟨0, .results⟩⟩

theorem blank_stateless : tallying.calls.Stateless blank := by
  intro args s t
  have hcalls (count : Nat) :
    (tallying.calls blank args count).1 = .returned (judgeBlank count args) := rfl
  rw [hcalls, hcalls]
  unfold judgeBlank
  split <;> rfl

theorem blanks_filtered_again :
    tallying.calls.Stateless blank ∧
      (filter.apply tallying.calls (.array .error [.null, .int 4, .null]) (.function blank) 0).1 =
        .ok (.array .error [.null, .null]) ∧
      ∃ element items, Value.array .error [.null, .null] = .array element items ∧
        (filter.apply tallying.calls (.array .error [.null, .null]) (.function blank) 3).1 =
          .ok (.array .error [.null, .null]) ∧
        (map.apply tallying.calls (.array .error [.null, .null]) (.function blank) 3).1 =
          .ok (.array .bool (List.replicate items.length (.bool true))) ∧
        (findIndex.apply tallying.calls (.array .error [.null, .null]) (.function blank) 3).1 =
          .ok (.int (if items.isEmpty then -1 else 0)) := by
  have hkept : (filter.apply tallying.calls (.array .error [.null, .int 4, .null])
    (.function blank) 0).1 = .ok (.array .error [.null, .null]) := rfl
  exact ⟨blank_stateless, hkept, filter_idempotent blank_stateless hkept 3⟩

end Operation

end DynSeq
