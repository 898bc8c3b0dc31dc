import DynSeq.Proofs.NotFound
import DynSeq.Proofs.Transcript

namespace DynSeq.Operation

/-- How the search for an item and the search for its position end, seen from their calls. They fail
alike, or the call for the item was the first that returned `true`, or no call did. -/
inductive Sought (items : List Value) (exchanges : List Exchange) :
    Except Failure Value → Except Failure Value → Prop
  | failed (failure : Failure) : Sought items exchanges (.error failure) (.error failure)
  | found {k : Nat} {item : Value} {position : Int64} (hitem : items[k]? = some item)
      (htrue : ∃ e, exchanges[k]? = some e ∧ e.primary? = some (.bool true))
      (hleast : ∀ i < k, ∃ e, exchanges[i]? = some e ∧ e.primary? ≠ some (.bool true))
      (hposition : position.toInt = k) (hback : position.toUInt64.toNat = k) :
      Sought items exchanges (.ok item) (.ok (.int position))
  | nothing (hall : exchanges.length = items.length)
      (hnone : ∀ e ∈ exchanges, e.primary? ≠ some (.bool true)) :
      Sought items exchanges (.ok .null) (.ok (.int (-1)))

section Position

theorem firstTruthy_of_none {results : List Value} (h : ∀ r ∈ results, r.isTruthy = false) :
    firstTruthy results = notFound := by
  have hnone : results.findIdx? (·.isTruthy) = none := List.findIdx?_eq_none_iff.2 h
  simp only [firstTruthy, hnone]

theorem firstTruthy_append {results : List Value} {result : Value}
    (h : ∀ r ∈ results, r.isTruthy = false) (hlast : result.isTruthy = true) :
    firstTruthy (results ++ [result]) = Int64.ofNat results.length := by
  have hnone : results.findIdx? (·.isTruthy) = none := List.findIdx?_eq_none_iff.2 h
  have hone : [result].findIdx? (·.isTruthy) = some 0 := by simp [hlast]
  simp only [firstTruthy, List.findIdx?_append, hnone, hone, Option.none_or, Option.map_some,
    Nat.zero_add]

end Position

section Tells

variable {f : Callable} {v : Value} {results : List Value} {exchanges : List Exchange}

theorem primary?_ne_true {r : Value} {e : Exchange} (he : e.primary? = some r)
    (hr : r.isTruthy = false) : e.primary? ≠ some (.bool true) := by
  intro htrue
  rw [he] at htrue
  cases htrue
  cases hr

theorem sought_of_tells (h : f.Tells (v.items?.getD []) Value.isTruthy (.ok results) exchanges)
    (hlength : (v.items?.getD []).length ≤ Int64.maxValue.toInt) :
    Sought (v.items?.getD []) exchanges (.ok (itemFound v (firstTruthy results)))
      (.ok (.int (firstTruthy results))) := by
  cases h with
  | exhausted h hall hgoes =>
    rw [firstTruthy_of_none hgoes]
    refine .nothing (h.length_eq.trans hall) ?_
    intro e he
    have hmem : e.primary? ∈ exchanges.map Exchange.primary? := List.mem_map_of_mem he
    rw [h.map_primary?] at hmem
    obtain ⟨r, hr, hprimary⟩ := List.mem_map.1 hmem
    exact primary?_ne_true hprimary.symm (hgoes r hr)
  | @stopped _ results result h hgoes hstop =>
    have hle := h.length_le
    rw [List.length_append, List.length_singleton] at hle
    obtain ⟨hposition, hback, hfound⟩ := position_kept (k := results.length) (by omega)
    have hitem := List.getElem?_eq_getElem (show results.length < (v.items?.getD []).length by omega)
    have hitemFound : itemFound v (Int64.ofNat results.length) = (v.items?.getD [])[results.length] :=
      itemFound_of_getElem hfound (by rw [hback, hitem])
    rw [firstTruthy_append hgoes hstop, hitemFound]
    refine .found hitem ?_ ?_ hposition hback
    · rw [← Value.isTruthy_iff.1 hstop]
      exact h.exists_exchange List.getElem?_concat_length
    · intro i hi
      have hresult : (results ++ [result])[i]? = some results[i] := by
        rw [List.getElem?_append_left hi, List.getElem?_eq_getElem hi]
      obtain ⟨e, he, hprimary⟩ := h.exists_exchange hresult
      exact ⟨e, he, primary?_ne_true hprimary (hgoes _ (List.getElem_mem hi))⟩

end Tells

theorem find_of_findIndex_failed {σ : Type} {calls : Calls σ} {v w : Value} {s : σ}
    {failure : Failure} (h : (findIndex.apply calls v w s).1 = .error failure) :
    (find.apply calls v w s).1 = .error failure :=
  map_eq_error_iff.2 (map_eq_error_iff.1 h)

/-- Searching for an item and searching for its position are one search, with the same calls and
the same end. The position is that of the item, as long as arrays are no longer than integers of
64 bits can say. -/
theorem find_agrees_with_findIndex {σ : Type} (calls : Calls σ) (v w : Value)
    (hlength : (v.items?.getD []).length ≤ Int64.maxValue.toInt) (s : σ) :
    find.exchanges calls v w s = findIndex.exchanges calls v w s ∧
    (find.apply calls v w s).2 = (findIndex.apply calls v w s).2 ∧
    (∀ f, w = .function f → (findIndex.exchanges calls v w s).map Exchange.call =
      ((v.items?.getD []).take (findIndex.exchanges calls v w s).length).map
        fun item ↦ (f, f.given item)) ∧
    Sought (v.items?.getD []) (findIndex.exchanges calls v w s) (find.apply calls v w s).1
      (findIndex.apply calls v w s).1 := by
  refine ⟨rfl, rfl, ?_⟩
  rcases accepts_or_denies findIndex v w with ⟨seq, c, p, ha⟩ | ⟨failure, hd⟩
  · obtain ⟨ended, hanswer, htells⟩ := tells_of_accepts calls ha s
    rw [← items_of_ofValue ha.sequence] at htells
    refine ⟨?_, ?_⟩
    · intro f hw
      obtain ⟨hf, -⟩ := Contract.ofValue_eq_ok_iff.1 ha.contract
      cases hw.symm.trans hf
      exact htells.map_call
    · cases ended with
      | error failure =>
        rw [hanswer, find_of_findIndex_failed hanswer]
        exact .failed failure
      | ok results =>
        rw [find_of_findIndex hanswer, hanswer]
        exact sought_of_tells htells hlength
  · have hanswer : (findIndex.apply calls v w s).1 = .error failure := by rw [apply_of_denies hd]
    rw [exchanges_of_denies hd, hanswer, find_of_findIndex_failed hanswer]
    exact ⟨fun _ _ ↦ rfl, .failed failure⟩

def third : Host Nat :=
  { Host.alone with results := fun _ _ count ↦ (.returned [.bool (count == 3)], count + 1) }

def letters : Value :=
  .array .string [.string "a", .string "b", .string "c", .string "d"]

def counting : Callable :=
  ⟨"counting", ⟨[.any], [.bool]⟩, ⟨0, .results⟩⟩

theorem third_letter_found :
    (letters.items?.getD []).length ≤ Int64.maxValue.toInt ∧
      (find.apply third.calls letters (.function counting) 1).1 = .ok (.string "c") ∧
      (findIndex.apply third.calls letters (.function counting) 1).1 = .ok (.int 2) ∧
      (findIndex.exchanges third.calls letters (.function counting) 1).map Exchange.call =
        [(counting, [.string "a"]), (counting, [.string "b"]), (counting, [.string "c"])] ∧
      Sought (letters.items?.getD [])
        (findIndex.exchanges third.calls letters (.function counting) 1)
        (.ok (.string "c")) (.ok (.int 2)) := by
  have hlength : (letters.items?.getD []).length ≤ Int64.maxValue.toInt := by decide
  obtain ⟨-, -, hcalls, hsought⟩ :=
    find_agrees_with_findIndex third.calls letters (.function counting) hlength 1
  exact ⟨hlength, rfl, rfl, hcalls counting rfl, hsought⟩

end DynSeq.Operation
