import DynSeq.Proofs.Agreement
import DynSeq.Proofs.Argument

namespace DynSeq.Operation

variable {σ : Type} {calls : Calls σ} {v w : Value} {s : σ}

theorem position_iff {k : Int64} {i : Nat} :
    i < UInt64.size ∧ k = Int64.ofNat i ↔ i = k.toUInt64.toNat := by
  constructor
  · intro h
    obtain ⟨hi, rfl⟩ := h
    rw [Int64.toUInt64_ofNat', UInt64.toNat_ofNat', Nat.mod_eq_of_lt hi]
  · intro h
    subst h
    have hofNat : Int64.ofNat k.toUInt64.toNat = k := by
      rw [← UInt64.toInt64_ofNat', UInt64.ofNat_toNat, Int64.toInt64_toUInt64]
    exact ⟨UInt64.toNat_lt_size _, hofNat.symm⟩

theorem position_kept {k : Nat} (h : k ≤ Int64.maxValue.toInt) :
    (Int64.ofNat k).toInt = k ∧ (Int64.ofNat k).toUInt64.toNat = k ∧
      Int64.ofNat k ≠ notFound := by
  rw [Int64.toInt_maxValue] at h
  have htoInt : (Int64.ofNat k).toInt = k := Int64.toInt_ofNat_of_lt (by omega)
  have hsize : k < UInt64.size := by
    have hsize : UInt64.size = 2 ^ 64 := rfl
    omega
  refine ⟨htoInt, (position_iff.1 ⟨hsize, rfl⟩).symm, ?_⟩
  intro hnone
  rw [hnone] at htoInt
  cases htoInt

theorem itemFound_of_getElem {k : Int64} (hk : k ≠ notFound) {item : Value}
    (h : (v.items?.getD [])[k.toUInt64.toNat]? = some item) : itemFound v k = item := by
  cases v with
  | array element items => simp_all [itemFound, Value.items?]
  | _ => simp [Value.items?] at h

theorem position_lt_length {results : List Value} {k : Int64} (h : firstTruthy results = k)
    (hk : k ≠ notFound) : k.toUInt64.toNat < results.length := by
  cases hi : results.findIdx? (·.isTruthy) with
  | none =>
    simp only [firstTruthy, hi] at h
    exact absurd h.symm hk
  | some i =>
    simp only [firstTruthy, hi] at h
    obtain ⟨hlt, -⟩ := List.findIdx?_eq_some_iff_getElem.1 hi
    have hle : k.toUInt64.toNat ≤ i := by
      rw [← h, Int64.toUInt64_ofNat', UInt64.toNat_ofNat']
      exact Nat.mod_le _ _
    omega

theorem find_of_findIndex {k : Int64} (h : (findIndex.apply calls v w s).1 = .ok (.int k)) :
    (find.apply calls v w s).1 = .ok (itemFound v k) := by
  obtain ⟨position, hposition, hposition'⟩ := map_eq_ok_iff.1 h
  cases hposition'
  exact map_eq_ok_iff.2 ⟨k, hposition, rfl⟩

/-- A search found nothing, or else the item at the position, which was admitted. -/
theorem search_cases {found : Value} {k : Int64} (hfound : (find.apply calls v w s).1 = .ok found)
    (hk : (findIndex.apply calls v w s).1 = .ok (.int k)) :
    found = .null ∧ k = notFound ∨ k ≠ notFound ∧
      (v.items?.getD [])[k.toUInt64.toNat]? = some found ∧
      ∃ seq c p, findIndex.Accepts v w seq c p ∧ found ∈ seq.items ∧
        c.callable.Admits seq found := by
  have hitemFound : itemFound v k = found :=
    Except.ok.inj ((find_of_findIndex hk).symm.trans hfound)
  subst hitemFound
  by_cases hnone : k = notFound
  · subst hnone
    exact .inl ⟨rfl, rfl⟩
  · obtain ⟨seq, c, p, results, t, made, ha, he, hanswer⟩ := ends_of_answered hk
    obtain ⟨hle, hadmits⟩ := he.results_admitted
    have hfirst : firstTruthy results = k := by
      cases hanswer
      rfl
    have hlt := position_lt_length hfirst hnone
    have hitems := items_of_ofValue ha.sequence
    have hitem : seq.items[k.toUInt64.toNat]? = some seq.items[k.toUInt64.toNat] :=
      List.getElem?_eq_getElem (by omega)
    have hfound : itemFound v k = seq.items[k.toUInt64.toNat] :=
      itemFound_of_getElem hnone (by rw [hitems, hitem])
    rw [← hfound] at hitem
    refine .inr ⟨hnone, by rw [hitems, hitem], seq, c, p, ha, List.mem_of_getElem? hitem, ?_⟩
    exact hadmits _ hlt _ hitem

theorem nullable_of_null_admitted {seq : Sequence} {c : Contract} {p : Passing}
    (ha : findIndex.Accepts v w seq c p) (hi : .null ∈ seq.items)
    (hadmits : c.callable.Admits seq .null) :
    (∀ element items, v = .array element items → element.isNullable = true) ∧
      ∀ f param, w = .function f → f.signature.params = [param] → param.isNullable = true := by
  constructor
  · intro element items hv
    subst hv
    rcases Sequence.ofValue_eq_ok_iff.1 ha.sequence with ⟨h, -⟩ | ⟨element', h, -, hfit⟩ <;> cases h
    cases hopen : element.isInterface with
    | false => exact hfit hopen .null hi
    | true => cases element <;> first | rfl | cases hopen
  · intro f param hw hparams
    subst hw
    obtain ⟨hf, -⟩ := Contract.ofValue_eq_ok_iff.1 ha.contract
    cases hf
    exact fits_of_admits ha hi hadmits hparams

/-- Searching for an item and searching for its position fail alike. Where they succeed, null says
that nothing was found, or it is the item at the position; and it can only be that item if null
fits the declared type and the parameter. -/
theorem nothing_found_alike (calls : Calls σ) (v w : Value) (s : σ) :
    (∀ failure, (find.apply calls v w s).1 = .error failure ↔
      (findIndex.apply calls v w s).1 = .error failure) ∧
    ∀ (found : Value) (k : Int64), (find.apply calls v w s).1 = .ok found →
      (findIndex.apply calls v w s).1 = .ok (.int k) →
      (found = .null ↔ k = -1 ∨ ∃ i < UInt64.size, k = Int64.ofNat i ∧
        (v.items?.getD [])[i]? = some .null) ∧
      ((∃ element items, v = .array element items ∧ element.isNullable = false) ∨
        (∃ f param, w = .function f ∧ f.signature.params = [param] ∧ param.isNullable = false) →
        (found = .null ↔ k = -1)) := by
  constructor
  · intro failure
    have hfind : (find.apply calls v w s).1 = .error failure ↔
      (runFindIndex calls v w s).1 = .error failure := map_eq_error_iff
    have hindex : (findIndex.apply calls v w s).1 = .error failure ↔
      (runFindIndex calls v w s).1 = .error failure := map_eq_error_iff
    rw [hfind, hindex]
  · intro found k hfound hk
    rcases search_cases hfound hk with ⟨rfl, rfl⟩ | ⟨hnone, hitem, seq, c, p, ha, hi, hadmits⟩
    · exact ⟨iff_of_true rfl (.inl rfl), fun _ ↦ iff_of_true rfl rfl⟩
    · refine ⟨⟨?_, ?_⟩, fun h ↦ iff_of_false ?_ hnone⟩
      · rintro rfl
        obtain ⟨hlt, hk⟩ := position_iff.2 (rfl : k.toUInt64.toNat = k.toUInt64.toNat)
        exact .inr ⟨_, hlt, hk, hitem⟩
      · rintro (hk | ⟨i, hlt, hk, hnull⟩)
        · exact absurd hk hnone
        · rw [position_iff.1 ⟨hlt, hk⟩, hitem] at hnull
          exact Option.some.inj hnull
      · rintro rfl
        obtain ⟨helement, hparam⟩ := nullable_of_null_admitted ha hi hadmits
        rcases h with ⟨element, items, hv, hnot⟩ | ⟨f, param, hw, hparams, hnot⟩
        · simp [helement element items hv] at hnot
        · simp [hparam f param hw hparams] at hnot

def seeking : Host Nat :=
  { Host.alone with results := fun _ args next ↦ (.returned [.bool (args.all Value.isNull)], next) }

def nullTest : Value :=
  .function ⟨"isNull", ⟨[.any], [.bool]⟩, ⟨0, .results⟩⟩

theorem null_found_at_position : ¬ ∀ (found : Value) (k : Int64),
    (find.apply seeking.calls (.array .any [.int 4, .null]) nullTest 1).1 = .ok found →
    (findIndex.apply seeking.calls (.array .any [.int 4, .null]) nullTest 1).1 = .ok (.int k) →
    (found = .null ↔ k = -1) := by
  intro h
  have hnotFound : (1 : Int64) = -1 := (h .null 1 rfl rfl).1 rfl
  exact absurd hnotFound (by decide)

theorem null_found_or_nothing :
    (find.apply seeking.calls (.array (.array .int) [.array .int [], .null]) nullTest 1).1 =
        .ok .null ∧
      (findIndex.apply seeking.calls (.array (.array .int) [.array .int [], .null]) nullTest 1).1 =
        .ok (.int 1) ∧
      (Value.null = .null ↔ (1 : Int64) = -1 ∨ ∃ i < UInt64.size, (1 : Int64) = Int64.ofNat i ∧
        [Value.array .int [], .null][i]? = some .null) := by
  have hfound : (find.apply seeking.calls (.array (.array .int) [.array .int [], .null])
    nullTest 1).1 = .ok .null := rfl
  have hk : (findIndex.apply seeking.calls (.array (.array .int) [.array .int [], .null])
    nullTest 1).1 = .ok (.int 1) := rfl
  exact ⟨hfound, hk, ((nothing_found_alike seeking.calls _ nullTest 1).2 .null 1 hfound hk).1⟩

end DynSeq.Operation
