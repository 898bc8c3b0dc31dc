import DynSeq.Proofs.DemoRun
import DynSeq.Proofs.Typing
import DynSeq.Proofs.ValueRoundTrip

namespace DynSeq

namespace Value

mutual
theorem erased_erased : ∀ v : Value, v.erased.erased = v.erased
  | .array _ items => by rw [erased, erased, erasedAll_erasedAll items]
  | .null | .bool _ | .int _ | .float _ | .string _ | .function _ | .error _ => rfl
theorem erasedAll_erasedAll : ∀ vs : List Value, erasedAll (erasedAll vs) = erasedAll vs
  | [] => rfl
  | v :: vs => by rw [erasedAll, erasedAll, erased_erased v, erasedAll_erasedAll vs]
end

/-- The value has a document, from which it is read again up to its declared types. -/
def Recoverable (v : Value) : Prop :=
  ∃ json, v.toJson = .ok json ∧ ofJson true json = .ok v.erased

theorem Kept.recoverable {untyped : Bool} {v : Value} (h : Kept untyped v) : v.Recoverable := by
  obtain ⟨json, hwrite, hread⟩ := h
  refine ⟨json, hwrite, ?_⟩
  cases untyped with
  | false => rw [ofJson_true, hread, Except.map]
  | true =>
    rw [hread]
    rw [ofJson_true] at hread
    obtain ⟨u, -, rfl⟩ := map_eq_ok_iff.1 hread
    rw [u.erased_erased]

inductive Plain : Value → Prop
  | null : Plain .null
  | bool (b : Bool) : Plain (.bool b)
  | int (n : Int64) : Plain (.int n)

theorem Plain.recoverable {v : Value} (h : v.Plain) : v.Recoverable := by
  cases h with
  | null => exact ⟨.null, rfl, rfl⟩
  | bool b => exact ⟨.bool b, rfl, rfl⟩
  | int n =>
    have hkept : Kept false (.int n) := kept_int n
    exact hkept.recoverable

theorem recoverable_all_iff (items : List Value) :
    (∃ jsons, toJsons items = .ok jsons ∧ ofJsons true jsons = .ok (erasedAll items)) ↔
      ∀ item ∈ items, item.Recoverable := by
  induction items with
  | nil => exact iff_of_true ⟨[], rfl, rfl⟩ nofun
  | cons v rest ih =>
    rw [List.forall_mem_cons, ← ih]
    constructor
    · intro h
      obtain ⟨jsons, hwrite, hread⟩ := h
      obtain ⟨json, jsons, hjson, hjsons, rfl⟩ := toJsons_cons_eq_ok_iff.1 hwrite
      obtain ⟨v', vs', hv, hvs, heq⟩ := ofJsons_cons_eq_ok_iff.1 hread
      cases heq
      exact ⟨⟨json, hjson, hv⟩, jsons, hjsons, hvs⟩
    · intro h
      obtain ⟨⟨json, hjson, hv⟩, jsons, hjsons, hvs⟩ := h
      exact ⟨json :: jsons, toJsons_cons_eq_ok_iff.2 ⟨json, jsons, hjson, hjsons, rfl⟩,
        ofJsons_cons_eq_ok_iff.2 ⟨_, _, hv, hvs, rfl⟩⟩

theorem recoverable_array_iff {element : Ty} {items : List Value} :
    Recoverable (.array element items) ↔ ∀ item ∈ items, item.Recoverable := by
  rw [← recoverable_all_iff]
  constructor
  · intro h
    obtain ⟨json, hwrite, hread⟩ := h
    obtain ⟨jsons, hjsons, rfl⟩ := toJson_array_eq_ok_iff.1 hwrite
    obtain ⟨values, hvalues, heq⟩ := ofJson_array_eq_ok_iff.1 hread
    cases heq
    exact ⟨jsons, hjsons, hvalues⟩
  · intro h
    obtain ⟨jsons, hjsons, hvalues⟩ := h
    exact ⟨.array jsons, toJson_array_eq_ok_iff.2 ⟨jsons, hjsons, rfl⟩,
      ofJson_array_eq_ok_iff.2 ⟨_, hvalues, rfl⟩⟩

end Value

theorem Demo.result_plain (d : Demo) (args : List Value) : (d.result args).Plain := by
  unfold result run
  split
  · exact .int _
  · exact .null
  · exact .bool _
  · exact .bool _
  · exact .bool _

namespace Operation

variable {op : Operation} {v w : Value} {seq : Sequence} {c : Contract} {p : Passing}

theorem items_recoverable (hs : Sequence.ofValue v = .ok seq) (hv : v.Recoverable) :
    ∀ item ∈ seq.items, item.Recoverable := by
  rcases Sequence.ofValue_eq_ok_iff.1 hs with ⟨rfl, rfl⟩ | ⟨element, rfl, -⟩
  · nofun
  · exact Value.recoverable_array_iff.1 hv

theorem answer_recoverable (ha : op.Accepts v w seq c p) (hv : v.Recoverable)
    {results : List Value} (hresults : ∀ r ∈ results, r.Recoverable) :
    (op.answer v seq c results).Recoverable := by
  cases op with
  | map => exact Value.recoverable_array_iff.2 hresults
  | filter =>
    refine Value.recoverable_array_iff.2 ?_
    intro item hitem
    exact items_recoverable ha.sequence hv item (mem_of_mem_keep hitem)
  | find =>
    rcases itemFound_cases v (firstTruthy results) with h | ⟨element, items, rfl, h⟩
    · simp only [answer, h]
      exact Value.Plain.null.recoverable
    · exact Value.recoverable_array_iff.1 hv _ h
  | findIndex => exact (Value.Plain.int _).recoverable

theorem apply_recoverable {σ : Type} (h : Host σ) (d : Demo) (identity : Nat) {s : σ}
    (hv : v.Recoverable) {answered : Value}
    (ha : (op.apply h.calls v (.function (d.callable identity)) s).1 = .ok answered) :
    answered.Recoverable := by
  obtain ⟨seq, c, p, results, t, made, haccepts, he, rfl⟩ := ends_of_answered ha
  refine answer_recoverable haccepts hv (he.results_of_returned ?_)
  intro item _ t' returned hreturned
  rw [Contract.callable_eq haccepts.contract, d.calls_eq h] at hreturned
  cases hreturned
  exact List.forall_mem_singleton.2 (d.result_plain _).recoverable

end Operation

end DynSeq
