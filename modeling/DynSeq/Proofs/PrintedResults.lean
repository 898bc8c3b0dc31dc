import DynSeq.Proofs.Execution
import DynSeq.Proofs.Labels
import DynSeq.Proofs.PlainDocument
import DynSeq.Proofs.Recoverable
import DynSeq.Proofs.Search
import DynSeq.Proofs.WholePass

namespace DynSeq

namespace Value

theorem Plain.plain_of_toJson {v : Value} (h : v.Plain) {json : Json} (hjson : v.toJson = .ok json) :
    json.Plain := by
  cases h with
  | null =>
    cases hjson
    exact .null
  | bool b =>
    cases hjson
    exact .bool b
  | int n =>
    cases hjson
    have hhigh := n.toInt_lt
    have hsize : UInt64.size = 2 ^ 64 := rfl
    exact .integer n.le_toInt (by omega)

def Flat (v : Value) : Prop :=
  v.Plain ∨ ∃ element items, v = .array element items ∧ ∀ item ∈ items, item.Plain

theorem plain_of_toJsons {items : List Value} {jsons : List Json} (h : ∀ item ∈ items, item.Plain)
    (hjsons : toJsons items = .ok jsons) : ∀ json ∈ jsons, json.Plain := by
  induction items generalizing jsons with
  | nil =>
    cases hjsons
    intro json hmem
    cases hmem
  | cons item items ih =>
    obtain ⟨hitem, hitems⟩ := List.forall_mem_cons.1 h
    obtain ⟨json, rest, hjson, hrest, rfl⟩ := toJsons_cons_eq_ok_iff.1 hjsons
    exact List.forall_mem_cons.2 ⟨hitem.plain_of_toJson hjson, ih hitems hrest⟩

theorem Flat.read_print {v : Value} (h : v.Flat) {json : Json} (hjson : v.toJson = .ok json) :
    Json.read json.print = some json := by
  rcases h with hplain | ⟨element, items, rfl, hitems⟩
  · exact (hplain.plain_of_toJson hjson).read_print
  · obtain ⟨jsons, hjsons, rfl⟩ := toJson_array_eq_ok_iff.1 hjson
    exact Json.read_print_array (plain_of_toJsons hitems hjsons)

theorem Flat.recoverable {v : Value} (h : v.Flat) : v.Recoverable := by
  rcases h with hplain | ⟨element, items, rfl, hitems⟩
  · exact hplain.recoverable
  · refine recoverable_array_iff.2 ?_
    intro item hitem
    exact (hitems item hitem).recoverable

end Value

namespace Demo

theorem ne_never_of_truthy {d : Demo} {args : List Value}
    (h : (d.result args).isTruthy = true) : d ≠ .never := by
  intro hd
  subst hd
  cases h

end Demo

namespace Operation

section Flat

variable {σ : Type} (h : Host σ) {op : Operation} {d : Demo} {identity : Nat} {v : Value}
  {seq : Sequence} {c : Contract} {p : Passing} {s t : σ} {made : List (Callable × List Value)}
  {results : List Value}

theorem results_of_ends (ha : op.Accepts v (.function (d.callable identity)) seq c p)
    (he : c.callable.Ends h.calls seq op.stop s (.ok results) t made) :
    ∀ r ∈ results, ∃ args, r = d.result args := by
  rw [Contract.callable_eq ha.contract] at he
  refine he.results_of_returned ?_
  intro item _ t' returned hreturned
  rw [d.calls_eq h] at hreturned
  cases hreturned
  exact List.forall_mem_singleton.2 ⟨_, rfl⟩

include h

theorem kept_plain (ha : op.Accepts v (.function (d.callable identity)) seq c p)
    (he : c.callable.Ends h.calls seq op.stop s (.ok results) t made) :
    ∀ item ∈ keep seq.items results, item.Plain := by
  intro item hitem
  obtain ⟨i, r, -, hr, htruthy⟩ := exists_truthy_of_mem_keep hitem
  obtain ⟨args, rfl⟩ := results_of_ends h ha he r (List.mem_of_getElem? hr)
  have hparams := Demo.params_of_ne_never (Demo.ne_never_of_truthy htruthy)
  have hfits := (kept_admitted ha he hitem).2 _ .int rfl hparams
  obtain ⟨n, rfl⟩ := Value.assignableTo_int.1 hfits
  exact .int n

theorem position_never {k : Int64}
    (hk : (findIndex.apply h.calls v (.function (Demo.never.callable identity)) s).1 =
      .ok (.int k)) : k = notFound := by
  obtain ⟨seq, c, p, results, t, made, ha, he, hanswer⟩ := ends_of_answered hk
  cases hanswer
  refine firstTruthy_of_none ?_
  intro r hr
  obtain ⟨args, rfl⟩ := results_of_ends h ha he r hr
  rfl

theorem found_plain {found : Value}
    (hfound : (find.apply h.calls v (.function (d.callable identity)) s).1 = .ok found) :
    found.Plain := by
  obtain ⟨k, hposition, -⟩ := map_eq_ok_iff.1 hfound
  have hk : (findIndex.apply h.calls v (.function (d.callable identity)) s).1 = .ok (.int k) :=
    map_eq_ok_iff.2 ⟨k, hposition, rfl⟩
  rcases search_cases hfound hk with ⟨rfl, -⟩ | ⟨hnone, -, seq, c, p, ha, hi, hadmits⟩
  · exact .null
  · -- A function without parameters admits every item, but the only one here finds none.
    have hd : d ≠ .never := by
      intro hd
      subst hd
      exact hnone (position_never h hk)
    have hparams : c.callable.signature.params = [.int] := by
      rw [Contract.callable_eq ha.contract]
      exact Demo.params_of_ne_never hd
    obtain ⟨n, rfl⟩ := Value.assignableTo_int.1 (fits_of_admits ha hi hadmits hparams)
    exact .int n

/-- Whatever the input is like, what an operation gives with a demo function is flat. An item is
kept or found only if the function returned `true` for it, which it does for integers alone. -/
theorem apply_flat {answered : Value}
    (hanswered : (op.apply h.calls v (.function (d.callable identity)) s).1 = .ok answered) :
    answered.Flat := by
  obtain ⟨seq, c, p, results, t, made, ha, he, rfl⟩ := ends_of_answered hanswered
  cases op with
  | map =>
    refine .inr ⟨_, results, rfl, ?_⟩
    intro r hr
    obtain ⟨args, rfl⟩ := results_of_ends h ha he r hr
    exact d.result_plain args
  | filter => exact .inr ⟨_, _, rfl, kept_plain h ha he⟩
  | find => exact .inl (found_plain h hanswered)
  | findIndex => exact .inl (.int _)

end Flat

end Operation

namespace CommandLine

namespace Application

variable {read : Reading} {a : Application} {answered : Value} {text : String}

theorem result_flat (h : a.result read = .ok answered) : answered.Flat := by
  unfold result at h
  split at h
  · cases h
  · rename_i demo hfunc
    obtain ⟨v, -, h⟩ := bind_eq_ok_iff.1 h
    exact Operation.apply_flat Host.alone (mapError_eq_ok_iff.1 h)

theorem execute_eq_ok_iff : a.execute read = .ok text ↔
    ∃ answered, a.result read = .ok answered ∧ render a.output answered = .ok text := by
  rw [execute, bind_eq_ok_iff]
  simp only [mapError_eq_ok_iff]

end Application

/-- The document of a value, which is printed, read again and taken for the value, except for its
declared types. -/
structure ReadBack (v : Value) (json : Json) (printed : String) : Prop where
  toJson_eq : v.toJson = .ok json
  read_eq : Json.read printed = some json
  ofJson_eq : ∃ w, Value.ofJson false json = .ok w ∧ w.erased = v.erased
  ofJson_untyped_eq : Value.ofJson true json = .ok v.erased

theorem readBack_of_flat {v : Value} (h : v.Flat) : ∃ json, ReadBack v json json.print := by
  obtain ⟨json, hwrite, hread⟩ := h.recoverable
  refine ⟨json, hwrite, h.read_print hwrite, ?_, hread⟩
  rw [Value.ofJson_true] at hread
  exact map_eq_ok_iff.1 hread

/-- Whatever is printed as text could be printed as JSON, and nothing of the value is lost there but
its declared types. -/
theorem text_also_as_json (read : Reading) (a : Application) {text : String}
    (h : { a with output := .text }.execute read = .ok text) :
    ∃ answered json printed, a.result read = .ok answered ∧ text = answered.text ∧
      { a with output := .json }.execute read = .ok printed ∧ ReadBack answered json printed := by
  obtain ⟨answered, hresult, htext⟩ := Application.execute_eq_ok_iff.1 h
  obtain ⟨json, hback⟩ := readBack_of_flat (Application.result_flat hresult)
  have hprinted : render .json answered = .ok json.print :=
    map_eq_ok_iff.2 ⟨json, hback.toJson_eq, rfl⟩
  refine ⟨answered, json, json.print, hresult, (Except.ok.inj htext).symm, ?_, hback⟩
  exact Application.execute_eq_ok_iff.2 ⟨answered, hresult, hprinted⟩

def oddOnes : Application :=
  ⟨.filter, "odd", ["2", "3", "7"], none, false, .text⟩

theorem odd_ones_also_as_json :
    { oddOnes with output := .text }.execute .empty = .ok "[3, 7]" ∧
      { oddOnes with output := .json }.execute .empty = .ok "[3,7]" ∧
      ∃ answered json printed, oddOnes.result .empty = .ok answered ∧
        "[3, 7]" = answered.text ∧
        { oddOnes with output := .json }.execute .empty = .ok printed ∧
        ReadBack answered json printed := by
  have htext : { oddOnes with output := .text }.execute .empty = .ok "[3, 7]" := rfl
  exact ⟨htext, rfl, text_also_as_json _ oddOnes htext⟩

end CommandLine

end DynSeq
