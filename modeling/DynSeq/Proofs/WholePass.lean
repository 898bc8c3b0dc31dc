import DynSeq.Proofs.Transcript
import DynSeq.Proofs.Typing

namespace DynSeq

namespace Callable

variable {f : Callable} {items : List Value} {exchanges : List Exchange}

/-- Nothing is left out of a pass over all items: each was called for, and each call gave a
result. -/
structure Completes (f : Callable) (items : List Value) (exchanges : List Exchange) : Prop where
  length_eq : exchanges.length = items.length
  gives : ∀ i e, exchanges[i]? = some e → ∃ result, f.Reads i e.outcome (.ok result)

theorem Transcribes.completes {results : List Value} (h : f.Transcribes items exchanges results)
    (hall : results.length = items.length) : f.Completes items exchanges := by
  constructor
  · rw [h.length_eq, hall]
  · intro i e he
    exact h.exists_reads he

theorem Tells.exhausted_of_never {results : List Value}
    (h : f.Tells items Operation.never (.ok results) exchanges) :
    f.Transcribes items exchanges results ∧ results.length = items.length := by
  cases h with
  | exhausted h hall => exact ⟨h, hall⟩
  | stopped _ _ hstop => cases hstop

theorem Tells.not_completes {purpose : Purpose} {w : Value} {c : Contract}
    (hc : Contract.ofValue purpose w = .ok c) {stop : Value → Bool} {failure : Failure}
    (h : c.callable.Tells items stop (.error failure) exchanges) :
    ¬ c.callable.Completes items exchanges := by
  intro hcompletes
  cases h with
  | missed h hlt =>
    have hlength := hcompletes.length_eq
    rw [h.length_eq] at hlength
    omega
  | @failed exchanges results item outcome _ h hi hr =>
    have hlast : (exchanges ++ [⟨c.callable, c.callable.given item, outcome⟩])[results.length]? =
        some ⟨c.callable, c.callable.given item, outcome⟩ := by
      rw [← h.length_eq, List.getElem?_concat_length]
    obtain ⟨result, hgives⟩ := hcompletes.gives _ _ hlast
    cases ((Contract.reads_iff hc).1 hr).symm.trans ((Contract.reads_iff hc).1 hgives)

end Callable

namespace Operation

variable {σ : Type} {calls : Calls σ} {op : Operation} {v : Value} {f : Callable}
  {seq : Sequence} {c : Contract} {s : σ}

theorem transcribes_of_answered (hstop : op.stop = never) {answered : Value}
    (h : (op.apply calls v (.function f) s).1 = .ok answered) :
    ∃ seq c p results, op.Accepts v (.function f) seq c p ∧
      f.Transcribes (v.items?.getD []) (op.exchanges calls v (.function f) s) results ∧
      results.length = (v.items?.getD []).length ∧ answered = op.answer v seq c results := by
  rcases accepts_or_denies op v (.function f) with ⟨seq, c, p, ha⟩ | ⟨failure, hd⟩
  · obtain ⟨ended, hanswer, htells⟩ := tells_of_accepts calls ha s
    rw [hanswer] at h
    obtain ⟨results, rfl, rfl⟩ := map_eq_ok_iff.1 h
    rw [hstop, Contract.callable_eq ha.contract, ← items_of_ofValue ha.sequence] at htells
    obtain ⟨htranscribes, hall⟩ := htells.exhausted_of_never
    exact ⟨seq, c, p, results, ha, htranscribes, hall, rfl⟩
  · rw [apply_of_denies hd] at h
    cases h

theorem answered_iff_completes (calls : Calls σ) (op : Operation) (hstop : op.stop = never)
    (hs : Sequence.ofValue v = .ok seq) (hc : Contract.ofValue op.purpose (.function f) = .ok c)
    (s : σ) :
    (∃ answered, (op.apply calls v (.function f) s).1 = .ok answered) ↔
      f.Completes (v.items?.getD []) (op.exchanges calls v (.function f) s) := by
  constructor
  · intro h
    obtain ⟨answered, h⟩ := h
    obtain ⟨seq, c, p, results, -, htranscribes, hall, -⟩ := transcribes_of_answered hstop h
    exact htranscribes.completes hall
  · intro hcompletes
    have hcallable := Contract.callable_eq hc
    subst hcallable
    cases hp : Passing.choose seq c.param with
    | error failure =>
      obtain ⟨t, element, -, -, hitems, -⟩ := Passing.choose_eq_error_iff.1 hp
      have hlength := hcompletes.length_eq
      rw [exchanges_of_denies (.passing seq c hs hc hp), items_of_ofValue hs] at hlength
      exact absurd (List.length_eq_zero_iff.1 hlength.symm) hitems
    | ok p =>
      obtain ⟨ended, hanswer, htells⟩ := tells_of_accepts calls ⟨hs, hc, hp⟩ s
      rw [← items_of_ofValue hs] at htells
      cases ended with
      | error failure => exact absurd hcompletes (htells.not_completes hc)
      | ok results => exact ⟨_, hanswer⟩

section Map

/-- An array that has for every item the first result of the call for it. Its type is the declared
one of the first results if all of them fit that, and `any` otherwise. -/
structure PositionalImage (f : Callable) (inputs : List Value) (exchanges : List Exchange)
    (element : Ty) (outputs : List Value) : Prop where
  length_eq : outputs.length = inputs.length
  calls_eq : exchanges.map Exchange.call = inputs.map fun input ↦ (f, f.given input)
  outputs_eq : outputs.map some = exchanges.map Exchange.primary?
  element_eq : ∃ primary, f.signature.results.head? = some primary ∧
    element = if outputs.all (·.assignableTo primary) then primary else .any
  outputs_fit : ∀ output ∈ outputs, output.assignableTo element = true

/-- Mapping gives an array exactly if each item was called for and each call gave a result, and then
that is the array of these results. -/
theorem map_positional_image (calls : Calls σ) {v : Value} {f : Callable} {seq : Sequence}
    {c : Contract} (hs : Sequence.ofValue v = .ok seq)
    (hc : Contract.ofValue .transform (.function f) = .ok c) (s : σ) :
    (∀ answered, (map.apply calls v (.function f) s).1 = .ok answered →
      ∃ element outputs, answered = .array element outputs ∧
        PositionalImage f (v.items?.getD []) (map.exchanges calls v (.function f) s) element
          outputs) ∧
    ((∃ answered, (map.apply calls v (.function f) s).1 = .ok answered) ↔
      f.Completes (v.items?.getD []) (map.exchanges calls v (.function f) s)) := by
  refine ⟨?_, answered_iff_completes calls map rfl hs hc s⟩
  intro answered h
  obtain ⟨seq', c', p, results, ha, htranscribes, hall, rfl⟩ := transcribes_of_answered rfl h
  refine ⟨results.foldl widen c'.primary, results, rfl, hall, ?_, htranscribes.map_primary?.symm,
    ?_, fits_foldl_widen c'.primary results⟩
  · rw [htranscribes.map_call, hall, List.take_length]
  · exact ⟨c'.primary, Contract.head?_results ha.contract, foldl_widen c'.primary results⟩

def alternating : Host Nat :=
  { Host.alone with
    results := fun _ _ count ↦
      (.returned [if count % 2 = 0 then .null else .int 7], count + 1) }

def numbering : Callable :=
  ⟨"numbering", ⟨[], [.int]⟩, ⟨0, .results⟩⟩

def initials : Value :=
  .array .string [.string "a", .string "b", .string "c"]

theorem null_widens_image :
    Sequence.ofValue initials = .ok ⟨initials.items?.getD [], some .string⟩ ∧
      Contract.ofValue .transform (.function numbering) = .ok ⟨numbering, none, .int, false⟩ ∧
      (map.apply alternating.calls initials (.function numbering) 1).1 =
        .ok (.array .any [.int 7, .null, .int 7]) ∧
      (∃ element outputs, Value.array .any [.int 7, .null, .int 7] = .array element outputs ∧
        PositionalImage numbering (initials.items?.getD [])
          (map.exchanges alternating.calls initials (.function numbering) 1) element outputs) ∧
      numbering.Completes (initials.items?.getD [])
        (map.exchanges alternating.calls initials (.function numbering) 1) := by
  have hs : Sequence.ofValue initials = .ok ⟨initials.items?.getD [], some .string⟩ := rfl
  have hc : Contract.ofValue .transform (.function numbering) =
    .ok ⟨numbering, none, .int, false⟩ := rfl
  have hmap : (map.apply alternating.calls initials (.function numbering) 1).1 =
    .ok (.array .any [.int 7, .null, .int 7]) := rfl
  obtain ⟨himage, hcompletes⟩ := map_positional_image alternating.calls hs hc 1
  exact ⟨hs, hc, hmap, himage _ hmap, hcompletes.1 ⟨_, hmap⟩⟩

end Map

section Filter

/-- The items for which a call returned `true` first, and no others, under the type that the array
declares, or else the one that the predicate takes. -/
structure AcceptedItems (f : Callable) (v : Value) (exchanges : List Exchange) (element : Ty)
    (kept : List Value) : Prop where
  calls_eq : exchanges.map Exchange.call = (v.items?.getD []).map fun input ↦ (f, f.given input)
  keptAt : ∃ answers positions, answers.map some = exchanges.map Exchange.primary? ∧
    KeptAt positions (v.items?.getD []) answers kept
  of_array : ∀ declared items, v = .array declared items → element = declared
  of_param : v = .null → ∀ param, f.signature.params = [param] → element = param
  of_nothing : v = .null → f.signature.params = [] → element = .any

/-- Filtering gives an array exactly if each item was called for and each call gave a result, and
then it holds the items for which that was `true`. -/
theorem filter_accepted_items (calls : Calls σ) {v : Value} {f : Callable} {seq : Sequence}
    {c : Contract} (hs : Sequence.ofValue v = .ok seq)
    (hc : Contract.ofValue .predicate (.function f) = .ok c) (s : σ) :
    (∀ answered, (filter.apply calls v (.function f) s).1 = .ok answered →
      ∃ element kept, answered = .array element kept ∧
        AcceptedItems f v (filter.exchanges calls v (.function f) s) element kept) ∧
    ((∃ answered, (filter.apply calls v (.function f) s).1 = .ok answered) ↔
      f.Completes (v.items?.getD []) (filter.exchanges calls v (.function f) s)) := by
  refine ⟨?_, answered_iff_completes calls filter rfl hs hc s⟩
  intro answered h
  obtain ⟨seq', c', p, results, ha, htranscribes, hall, rfl⟩ := transcribes_of_answered rfl h
  have hparams := Contract.params_eq ha.contract
  refine ⟨keptType seq' c'.param, keep seq'.items results, rfl, ?_, ?_, ?_, ?_, ?_⟩
  · rw [htranscribes.map_call, hall, List.take_length]
  · obtain ⟨positions, hkept⟩ := exists_keptAt (v.items?.getD []) results hall
    rw [items_of_ofValue ha.sequence] at hkept ⊢
    exact ⟨results, positions, htranscribes.map_primary?.symm, hkept⟩
  · intro declared items hv
    subst hv
    rcases Sequence.ofValue_eq_ok_iff.1 ha.sequence with ⟨h, -⟩ | ⟨element, h, hd, -⟩ <;> cases h
    simp [keptType, hd]
  · intro hv param hparam
    subst hv
    cases ha.sequence
    rw [hparam] at hparams
    rw [Option.toList_eq_singleton_iff.1 hparams.symm]
    rfl
  · intro hv hnone
    subst hv
    cases ha.sequence
    rw [hnone] at hparams
    rw [Option.toList_eq_nil_iff.1 hparams.symm]
    rfl

def echoing : Host Nat :=
  { Host.alone with results := fun _ args next ↦ (.returned args, next) }

def echo : Callable :=
  ⟨"echo", ⟨[.any], [.bool]⟩, ⟨0, .results⟩⟩

def answers : Value :=
  .array .any [.bool true, .int 1, .null, .bool true]

theorem only_true_accepted :
    Sequence.ofValue answers = .ok ⟨answers.items?.getD [], some .any⟩ ∧
      Contract.ofValue .predicate (.function echo) = .ok ⟨echo, some .any, .bool, false⟩ ∧
      (filter.apply echoing.calls answers (.function echo) 1).1 =
        .ok (.array .any [.bool true, .bool true]) ∧
      (∃ element kept, Value.array .any [.bool true, .bool true] = .array element kept ∧
        AcceptedItems echo answers (filter.exchanges echoing.calls answers (.function echo) 1)
          element kept) ∧
      echo.Completes (answers.items?.getD [])
        (filter.exchanges echoing.calls answers (.function echo) 1) := by
  have hs : Sequence.ofValue answers = .ok ⟨answers.items?.getD [], some .any⟩ := rfl
  have hc : Contract.ofValue .predicate (.function echo) =
    .ok ⟨echo, some .any, .bool, false⟩ := rfl
  have hfilter : (filter.apply echoing.calls answers (.function echo) 1).1 =
    .ok (.array .any [.bool true, .bool true]) := rfl
  obtain ⟨haccepted, hcompletes⟩ := filter_accepted_items echoing.calls hs hc 1
  exact ⟨hs, hc, hfilter, haccepted _ hfilter, hcompletes.1 ⟨_, hfilter⟩⟩

end Filter

end Operation

end DynSeq
