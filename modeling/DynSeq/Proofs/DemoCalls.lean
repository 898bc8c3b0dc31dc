import DynSeq.Proofs.DemoRun
import DynSeq.Proofs.Typing

namespace DynSeq

namespace Demo

/-- The arguments that a demo function is made for. It also has an answer to all others. -/
inductive Suited : Demo → List Value → Prop
  | inc (n : Int64) : Suited .inc [.int n]
  | odd (n : Int64) : Suited .odd [.int n]
  | never : Suited .never []

/-- What a demo function makes of an item. One is added modulo 2⁶⁴, in two's complement. -/
inductive Sends : Demo → Value → Value → Prop
  | inc {n m : Int64} (h : m.toInt = (n.toInt + 1).bmod UInt64.size) :
      Sends .inc (.int n) (.int m)
  | odd (n : Int64) : Sends .odd (.int n) (.bool (n.toInt.tmod 2 == 1))
  | never (item : Value) : Sends .never item (.bool false)

def mappedType : Demo → Ty
  | .inc => .int
  | .odd | .never => .bool

/-- How an operation with a demo function fails: the sequence is none, or holds an item that does
not fit its own type; its type or an item does not fit the parameter; or the function is no
predicate. The function itself never fails. -/
inductive Declines (op : Operation) (d : Demo) (v : Value) : Failure → Prop
  | notSequence (hnull : v ≠ .null) (harray : ∀ element items, v ≠ .array element items) :
      Declines op d v (.notASlice v.kindName)
  | misfit {element : Ty} {items : List Value} {index : Nat} {item : Value}
      (hv : v = .array element items) (hclosed : element.isInterface = false)
      (hi : items[index]? = some item) (hitem : item.assignableTo element = false) :
      Declines op d v (.elementNotAssignable index element item.typeName)
  | wrongType {element : Ty} {items : List Value} (hd : d ≠ .never)
      (hv : v = .array element items) (hclosed : element.isInterface = false) (hitems : items ≠ [])
      (helement : element ≠ .int) : Declines op d v (.elementNotAssignable 0 .int element.text)
  | notInt {element : Ty} {items : List Value} {index : Nat} {item : Value} (hd : d ≠ .never)
      (hv : v = .array element items) (hopen : element.isInterface = true)
      (hi : items[index]? = some item) (hitem : ∀ n, item ≠ .int n) :
      Declines op d v (.elementNotAssignable index .int item.typeName)
  | notPredicate (hd : d = .inc) (hop : op ≠ .map) : Declines op d v (.firstReturnNotBool .int)

variable {op : Operation} {d : Demo} {identity : Nat} {v item output : Value}

theorem takes_int {param : Ty} (h : d.signature.params = [param]) : d ≠ .never ∧ param = .int := by
  cases d with
  | never => cases h
  | inc | odd =>
    cases h
    exact ⟨nofun, rfl⟩

theorem Sends.int_of_ne_never (h : d.Sends item output) (hd : d ≠ .never) : ∃ n, item = .int n := by
  cases h with
  | inc => exact ⟨_, rfl⟩
  | odd n => exact ⟨n, rfl⟩
  | never => exact absurd rfl hd

theorem Sends.assignableTo_mappedType (h : d.Sends item output) :
    output.assignableTo d.mappedType = true := by
  cases h <;> rfl

/-- An output for every item, position by position. -/
structure SendsAll (d : Demo) (items outputs : List Value) : Prop where
  length_eq : outputs.length = items.length
  sends : ∀ (i : Nat) item output, items[i]? = some item → outputs[i]? = some output →
    d.Sends item output

theorem SendsAll.exists_output {items outputs : List Value} (h : d.SendsAll items outputs) :
    ∀ item ∈ items, ∃ output, d.Sends item output := by
  intro item hitem
  obtain ⟨i, hi⟩ := List.mem_iff_getElem?.1 hitem
  obtain ⟨hlt, -⟩ := List.getElem?_eq_some_iff.1 hi
  have houtput := List.getElem?_eq_getElem (h.length_eq ▸ hlt)
  exact ⟨_, h.sends i item _ hi houtput⟩

theorem SendsAll.assignableTo_mappedType {items outputs : List Value}
    (h : d.SendsAll items outputs) :
    ∀ output ∈ outputs, output.assignableTo d.mappedType = true := by
  intro output houtput
  obtain ⟨i, hi⟩ := List.mem_iff_getElem?.1 houtput
  obtain ⟨hlt, -⟩ := List.getElem?_eq_some_iff.1 hi
  have hitem := List.getElem?_eq_getElem (h.length_eq ▸ hlt)
  exact (h.sends i _ output hitem hi).assignableTo_mappedType

theorem suited_of_fitting {args : List Value}
    (h : Operation.Fitting v (d.callable identity, args)) : d.Suited args := by
  rcases h with ⟨hparams, hargs⟩ | ⟨param, element, items, item, hparams, -, -, hargs, hfit⟩
  · cases hargs
    cases d with
    | never => exact .never
    | inc | odd => cases hparams
  · cases hargs
    cases d with
    | never => cases hparams
    | inc =>
      cases hparams
      obtain ⟨n, rfl⟩ := Value.assignableTo_int.1 hfit
      exact .inc n
    | odd =>
      cases hparams
      obtain ⟨n, rfl⟩ := Value.assignableTo_int.1 hfit
      exact .odd n

theorem sends_result (h : d.Suited ((d.callable identity).given item)) :
    d.Sends item (d.result ((d.callable identity).given item)) := by
  cases d with
  | inc =>
    have hargs : (Demo.inc.callable identity).given item = [item] := rfl
    rw [hargs] at h ⊢
    cases h with
    | inc n => exact .inc (Int64.toInt_add n 1)
  | odd =>
    have hargs : (Demo.odd.callable identity).given item = [item] := rfl
    rw [hargs] at h ⊢
    cases h with
    | odd n =>
      have hresult : Demo.odd.result [.int n] = .bool (n % 2 == 1) := rfl
      rw [hresult, mod_two_eq]
      exact .odd n
  | never => exact .never item

theorem eq_contract {c : Contract}
    (hc : Contract.ofValue op.purpose (.function (d.callable identity)) = .ok c) :
    c = d.contract identity := by
  rw [contract_eq] at hc
  split at hc <;> cases hc
  rfl

theorem not_declines_map {seq : Sequence} {failure : Failure} (hs : Sequence.ofValue v = .ok seq)
    (hsends : ∀ item ∈ seq.items, ∃ output, d.Sends item output) :
    ¬ d.Declines .map v failure := by
  intro h
  cases h with
  | notSequence hnull harray =>
    rcases Sequence.ofValue_eq_ok_iff.1 hs with ⟨hv, -⟩ | ⟨element, hv, -⟩
    · exact hnull hv
    · exact harray element seq.items hv
  | misfit hv hclosed hi hitem =>
    subst hv
    obtain ⟨rfl, hfit⟩ := Sequence.ofValue_array_eq_ok_iff.1 hs
    simp [hfit hclosed _ (List.mem_of_getElem? hi)] at hitem
  | wrongType hd hv hclosed hitems helement =>
    subst hv
    obtain ⟨rfl, hfit⟩ := Sequence.ofValue_array_eq_ok_iff.1 hs
    obtain ⟨item, hitem⟩ := List.exists_mem_of_ne_nil _ hitems
    obtain ⟨output, hout⟩ := hsends item hitem
    obtain ⟨n, rfl⟩ := hout.int_of_ne_never hd
    rcases Ty.assignableTo_iff.1 (hfit hclosed _ hitem) with h | h
    · exact helement h.symm
    · subst h
      cases hclosed
  | notInt hd hv hopen hi hitem =>
    subst hv
    obtain ⟨rfl, -⟩ := Sequence.ofValue_array_eq_ok_iff.1 hs
    obtain ⟨output, hout⟩ := hsends _ (List.mem_of_getElem? hi)
    obtain ⟨n, hn⟩ := hout.int_of_ne_never hd
    exact hitem n hn
  | notPredicate hd hop => exact hop rfl

end Demo

namespace Operation

variable {σ : Type} (h : Host σ) {op : Operation} {d : Demo} {identity : Nat} {v : Value}
  {seq : Sequence} {c : Contract} {p : Passing} {s t : σ} {made : List (Callable × List Value)}

theorem declines_of_denies {failure : Failure}
    (hdenies : op.Denies v (.function (d.callable identity)) failure) :
    d.Declines op v failure := by
  cases hdenies with
  | sequence hs =>
    rcases Sequence.ofValue_error_cases hs with
      ⟨hnull, harray, rfl⟩ | ⟨element, items, hv, hclosed, hstray⟩
    · exact .notSequence hnull harray
    · obtain ⟨index, item, hi, hitem, -, rfl⟩ := Sequence.firstStray_eq_some_iff.1 hstray
      rw [Nat.zero_add]
      exact .misfit hv hclosed hi hitem
  | contract seq hs hc =>
    by_cases hop : op = .map ∨ d ≠ .inc
    · rw [Demo.contract_eq_ok hop] at hc
      cases hc
    · rw [Demo.contract_eq_error hop] at hc
      cases hc
      obtain ⟨hmap, hinc⟩ := not_or.1 hop
      exact .notPredicate (Classical.not_not.1 hinc) hmap
  | passing seq c hs hc hp =>
    obtain ⟨param, element, hparam, hstatic, hitems, hne, -, rfl⟩ :=
      Passing.choose_eq_error_iff.1 hp
    have hparams := Contract.params_eq hc
    rw [hparam] at hparams
    obtain ⟨hd, rfl⟩ := Demo.takes_int hparams
    rcases Sequence.ofValue_eq_ok_iff.1 hs with ⟨-, rfl⟩ | ⟨declared, hv, hdeclared, -⟩
    · cases hstatic
    · simp only [Sequence.static?, Option.filter_eq_some_iff, hdeclared, Option.some.injEq,
        Bool.not_eq_true'] at hstatic
      obtain ⟨rfl, hclosed⟩ := hstatic
      exact .wrongType hd hv hclosed hitems hne.symm

theorem declines_of_ends {failure : Failure}
    (ha : op.Accepts v (.function (d.callable identity)) seq c p)
    (he : c.callable.Ends h.calls seq op.stop s (.error failure) t made) :
    d.Declines op v failure := by
  rw [Contract.callable_eq ha.contract] at he
  cases he with
  | @stray index t made results item param _ hi hparams hopen hfit =>
    obtain ⟨hd, rfl⟩ := Demo.takes_int hparams
    have hitem : ∀ n, item ≠ .int n := by
      rintro n rfl
      cases hfit
    rcases Sequence.ofValue_eq_ok_iff.1 ha.sequence with ⟨-, rfl⟩ | ⟨element, hv, hdeclared, -⟩
    · cases hi
    · obtain ⟨items, declared⟩ := seq
      cases hdeclared
      exact .notInt hd hv (Sequence.isOpen_iff.1 hopen) hi hitem
  | failed _ hturn =>
    have hreads := hturn.reads
    rw [d.calls_eq h] at hreads
    have hcount : (d.callable identity).signature.results.length = 1 := by cases d <;> rfl
    cases hreads with
    | miscounted _ hlength => exact absurd hcount.symm hlength

theorem declines_of_failed {failure : Failure}
    (hfailed : (op.apply h.calls v (.function (d.callable identity)) s).1 = .error failure) :
    d.Declines op v failure := by
  rcases denied_or_ended hfailed with hdenies | ⟨seq, c, p, t, made, ha, he⟩
  · exact declines_of_denies hdenies
  · exact declines_of_ends h ha he

theorem sends_of_turn (ha : op.Accepts v (.function (d.callable identity)) seq c p) {index : Nat}
    {item result : Value}
    (hturn : (d.callable identity).Turn h.calls seq index item s (.ok result) t) :
    d.Sends item result := by
  have hcallable := Contract.callable_eq ha.contract
  have hfitting := fitting_of_accepts ha hturn.mem (hcallable ▸ hturn.admits)
  rw [hcallable] at hfitting
  obtain ⟨rest, hreturned⟩ := hturn.reads.exists_returned
  rw [d.calls_eq h] at hreturned
  cases hreturned
  exact Demo.sends_result (Demo.suited_of_fitting hfitting)

theorem map_sends {answered : Value}
    (hanswered : (map.apply h.calls v (.function (d.callable identity)) s).1 = .ok answered) :
    ∃ seq outputs, Sequence.ofValue v = .ok seq ∧ answered = .array d.mappedType outputs ∧
      d.SendsAll seq.items outputs := by
  obtain ⟨seq, c, p, results, t, made, ha, he, rfl⟩ := ends_of_answered hanswered
  have hlength := he.length_of_never fun _ ↦ rfl
  rw [Contract.callable_eq ha.contract] at he
  have hsends : d.SendsAll seq.items results := by
    refine ⟨hlength, ?_⟩
    intro i item output hitem houtput
    obtain ⟨turned, u, u', hturn⟩ := he.exists_turn houtput
    cases hitem.symm.trans hturn.getElem
    exact sends_of_turn h ha hturn
  have hprimary : c.primary = d.mappedType := by
    rw [Demo.eq_contract ha.contract]
    cases d <;> rfl
  refine ⟨seq, results, ha.sequence, ?_, hsends⟩
  rw [answer, label, hprimary, foldl_widen,
    if_pos (List.all_eq_true.2 hsends.assignableTo_mappedType)]

theorem map_answers_iff (identity : Nat) (v : Value) (s : σ) :
    (∃ answered, (map.apply h.calls v (.function (d.callable identity)) s).1 = .ok answered) ↔
      ∃ seq, Sequence.ofValue v = .ok seq ∧ ∀ item ∈ seq.items, ∃ output, d.Sends item output := by
  constructor
  · intro hanswers
    obtain ⟨answered, hanswered⟩ := hanswers
    obtain ⟨seq, outputs, hs, -, hsends⟩ := map_sends h hanswered
    exact ⟨seq, hs, hsends.exists_output⟩
  · intro hsends
    obtain ⟨seq, hs, hsends⟩ := hsends
    cases hran : (map.apply h.calls v (.function (d.callable identity)) s).1 with
    | ok answered => exact ⟨answered, rfl⟩
    | error failure =>
      exact absurd (declines_of_failed h hran) (Demo.not_declines_map hs hsends)

/-- Demo functions are total on what operations pass to them. Whatever the sequence is like, `inc`
and `odd` are called with single integers alone, nothing fails but the checks of the sequence and
of the signature, and a mapped array has the type that the function declares. -/
theorem demo_total (d : Demo) (identity : Nat) (v : Value) (s : σ) :
    (∀ op : Operation,
      (∀ call ∈ (op.apply h.calls.recorded v (.function (d.callable identity)) (s, [])).2.2,
        call.1 = d.callable identity ∧ d.Suited call.2) ∧
      ∀ failure, (op.apply h.calls v (.function (d.callable identity)) s).1 = .error failure →
        d.Declines op v failure) ∧
    (∀ answered, (map.apply h.calls v (.function (d.callable identity)) s).1 = .ok answered →
      ∃ outputs, answered = .array d.mappedType outputs ∧
        d.SendsAll (v.items?.getD []) outputs) ∧
    ((∃ answered, (map.apply h.calls v (.function (d.callable identity)) s).1 = .ok answered) ↔
      ∃ seq, Sequence.ofValue v = .ok seq ∧
        ∀ item ∈ seq.items, ∃ output, d.Sends item output) := by
  refine ⟨fun op ↦ ⟨?_, fun failure ↦ declines_of_failed h⟩, ?_, map_answers_iff h identity v s⟩
  · intro call hcall
    obtain ⟨made, hmade, hfit⟩ :=
      apply_recorded_fitting h.calls op v (.function (d.callable identity)) s []
    rw [hmade, List.append_nil] at hcall
    obtain ⟨f, args⟩ := call
    obtain ⟨hf, hfitting⟩ := hfit _ hcall
    cases hf
    exact ⟨rfl, Demo.suited_of_fitting hfitting⟩
  · intro answered hanswered
    obtain ⟨seq, outputs, hs, hanswer, hsends⟩ := map_sends h hanswered
    rw [items_of_ofValue hs]
    exact ⟨outputs, hanswer, hsends⟩

example : (map.apply Host.alone.calls (.array .error [.int 9223372036854775807, .null])
      (.function (Demo.inc.callable 0)) 1).1 = .error (.elementNotAssignable 1 .int "null") ∧
    (map.apply Host.alone.calls (.array .error [.int 9223372036854775807])
      (.function (Demo.inc.callable 0)) 1).1 =
        .ok (.array .int [.int (-9223372036854775808)]) :=
  ⟨rfl, rfl⟩

end Operation

end DynSeq
