import DynSeq.Proofs.ApplyCourse

namespace DynSeq

theorem Value.isTruthy_iff {v : Value} : v.isTruthy = true ↔ v = .bool true := by
  cases v with
  | bool b => cases b <;> simp [isTruthy]
  | _ => simp [isTruthy]

section Stages

variable {ε ε' α β : Type} {x : Except ε α}

theorem map_eq_ok_iff {f : α → β} {b : β} : x.map f = .ok b ↔ ∃ a, x = .ok a ∧ f a = b := by
  cases x <;> simp [Except.map]

theorem map_eq_error_iff {f : α → β} {e : ε} : x.map f = .error e ↔ x = .error e := by
  cases x <;> simp [Except.map]

theorem mapError_eq_ok_iff {f : ε → ε'} {a : α} : x.mapError f = .ok a ↔ x = .ok a := by
  cases x with
  | error e => exact iff_of_false nofun nofun
  | ok b =>
    constructor
    · intro h
      cases h
      rfl
    · intro h
      cases h
      rfl

theorem bind_eq_ok_iff {f : α → Except ε β} {b : β} :
    (x >>= f) = .ok b ↔ ∃ a, x = .ok a ∧ f a = .ok b := by
  cases x <;> simp [bind, Except.bind]

end Stages

namespace Contract

variable {σ : Type} {c : Contract} {p : Passing} {stop : Value → Bool}

section Step

variable {calls : Calls σ} {index : Nat} {item result : Value} {s s' : σ}

theorem collect_of_failure {failure : Failure}
    (h : step calls c p index item s = (.error failure, s')) (stop : Value → Bool)
    (rest : List Value) :
    collect calls c p stop index (item :: rest) s = (.error failure, s') := by
  simp only [collect, h]

theorem collect_of_stop (h : step calls c p index item s = (.ok result, s'))
    (hstop : stop result = true) (rest : List Value) :
    collect calls c p stop index (item :: rest) s = (.ok [result], s') := by
  simp only [collect, h, hstop, if_true]

theorem collect_of_next (h : step calls c p index item s = (.ok result, s'))
    (stop : Value → Bool) (hstop : stop result = false) (rest : List Value) :
    collect calls c p stop index (item :: rest) s =
      ((collect calls c p stop (index + 1) rest s').1.map (result :: ·),
        (collect calls c p stop (index + 1) rest s').2) := by
  simp only [collect, h, hstop, Bool.false_eq_true, if_false]

theorem collect_length (calls : Calls σ) (c : Contract) (p : Passing) (stop : Value → Bool)
    (index : Nat) (items : List Value) (s : σ) {results : List Value}
    (h : (collect calls c p stop index items s).1 = .ok results) :
    results.length ≤ items.length ∧
      ((∀ r ∈ results, stop r = false) → results.length = items.length) := by
  induction items generalizing index s results with
  | nil =>
    cases h
    exact ⟨Nat.le_refl _, fun _ ↦ rfl⟩
  | cons item rest ih =>
    cases hstep : step calls c p index item s with
    | mk judged s' =>
      cases judged with
      | error failure =>
        rw [collect_of_failure hstep] at h
        cases h
      | ok result =>
        cases hstop : stop result with
        | true =>
          rw [collect_of_stop hstep hstop] at h
          cases h
          simp [hstop]
        | false =>
          rw [collect_of_next hstep stop hstop] at h
          obtain ⟨results', hrest, rfl⟩ := map_eq_ok_iff.1 h
          simpa [hstop] using ih (index + 1) s' hrest

end Step

-- A record has the latest call first, so that the first of the calls are a suffix of it.

/-- A run over recorded calls beside the one over the same items that nothing stops: it is the same,
or it ends with a result that stops it, when it has made the first of the calls and has the first
of the results. -/
inductive Cuts (stop : Value → Bool) :
    Except Failure (List Value) × σ × List (Callable × List Value) →
    Except Failure (List Value) × σ × List (Callable × List Value) → Prop
  | whole (ran : Except Failure (List Value) × σ × List (Callable × List Value)) :
      Cuts stop ran ran
  | early {results : List Value} {t : σ} {made : List (Callable × List Value)}
      {full : Except Failure (List Value) × σ × List (Callable × List Value)}
      (hstop : ∃ r ∈ results, stop r = true) (hmade : made <:+ full.2.2)
      (hall : ∀ all, full.1 = .ok all → results <+: all) :
      Cuts stop (.ok results, t, made) full

section Cuts

variable {cut full : Except Failure (List Value) × σ × List (Callable × List Value)}

theorem Cuts.cons (h : Cuts stop cut full) (result : Value) :
    Cuts stop (cut.1.map (result :: ·), cut.2) (full.1.map (result :: ·), full.2) := by
  cases h with
  | whole => exact .whole _
  | early hstop hmade hall =>
    obtain ⟨r, hr, hstop⟩ := hstop
    refine .early ⟨r, .tail _ hr, hstop⟩ hmade fun all h ↦ ?_
    obtain ⟨rest, hfull, rfl⟩ := map_eq_ok_iff.1 h
    exact (List.prefix_cons_inj result).2 (hall rest hfull)

theorem Cuts.calls (h : Cuts stop cut full) : cut.2.2 <:+ full.2.2 := by
  cases h with
  | whole => exact List.suffix_refl _
  | early _ hmade _ => exact hmade

theorem Cuts.failure (h : Cuts stop cut full) {failure : Failure}
    (hcut : cut.1 = .error failure) : full.1 = .error failure := by
  cases h with
  | whole => exact hcut
  | early => cases hcut

theorem Cuts.findIdx?_eq (h : Cuts stop cut full) {all : List Value} (hfull : full.1 = .ok all) :
    ∃ results, cut.1 = .ok results ∧ results.findIdx? stop = all.findIdx? stop := by
  cases h with
  | whole => exact ⟨all, hfull, rfl⟩
  | @early results _ _ _ hstop _ hall =>
    refine ⟨results, rfl, ?_⟩
    cases hi : results.findIdx? stop with
    | none =>
      obtain ⟨r, hr, hstop⟩ := hstop
      simp [List.findIdx?_eq_none_iff.1 hi r hr] at hstop
    | some i => exact ((hall all hfull).findIdx?_eq_some hi).symm

theorem Cuts.eq_of_none (h : Cuts stop cut full) {results : List Value}
    (hcut : cut.1 = .ok results) (hnone : results.findIdx? stop = none) : full = cut := by
  cases h with
  | whole => rfl
  | early hstop =>
    cases hcut
    obtain ⟨r, hr, hstop⟩ := hstop
    simp [List.findIdx?_eq_none_iff.1 hnone r hr] at hstop

end Cuts

theorem step_log (calls : Calls σ) (c : Contract) (p : Passing) (index : Nat) (item : Value)
    (s : σ) (log : List (Callable × List Value)) :
    log <:+ (step calls.recorded c p index item (s, log)).2.2 := by
  unfold step
  split
  · exact List.suffix_refl _
  · exact List.suffix_cons _ _

theorem collect_log (calls : Calls σ) (c : Contract) (p : Passing) (stop : Value → Bool)
    (index : Nat) (items : List Value) (s : σ) (log : List (Callable × List Value)) :
    log <:+ (collect calls.recorded c p stop index items (s, log)).2.2 := by
  induction items generalizing index s log with
  | nil => exact List.suffix_refl _
  | cons item rest ih =>
    have hlog := step_log calls c p index item s log
    cases hstep : step calls.recorded c p index item (s, log) with
    | mk judged state =>
      obtain ⟨s', log'⟩ := state
      rw [hstep] at hlog
      cases judged with
      | error failure => rwa [collect_of_failure hstep]
      | ok result =>
        cases hstop : stop result with
        | true => rwa [collect_of_stop hstep hstop]
        | false =>
          rw [collect_of_next hstep stop hstop]
          exact hlog.trans (ih (index + 1) s' log')

theorem collect_cuts (calls : Calls σ) (c : Contract) (p : Passing) (stop : Value → Bool)
    (index : Nat) (items : List Value) (s : σ) (log : List (Callable × List Value)) :
    Cuts stop (collect calls.recorded c p stop index items (s, log))
      (collect calls.recorded c p Operation.never index items (s, log)) := by
  induction items generalizing index s log with
  | nil => exact .whole _
  | cons item rest ih =>
    cases hstep : step calls.recorded c p index item (s, log) with
    | mk judged state =>
      obtain ⟨s', log'⟩ := state
      cases judged with
      | error failure =>
        rw [collect_of_failure hstep, collect_of_failure hstep]
        exact .whole _
      | ok result =>
        rw [collect_of_next hstep Operation.never rfl]
        cases hstop : stop result with
        | true =>
          rw [collect_of_stop hstep hstop]
          refine .early ⟨result, .head _, hstop⟩ (collect_log calls c p _ _ rest s' log') ?_
          intro all hall
          obtain ⟨results, -, rfl⟩ := map_eq_ok_iff.1 hall
          exact ⟨results, rfl⟩
        | false =>
          rw [collect_of_next hstep stop hstop]
          exact (ih (index + 1) s' log').cons result

end Contract

namespace Operation

/-- What is kept are the items at some positions, which ascend and are those at which the results
are `true`. -/
structure KeptAt (positions : List Nat) (items results kept : List Value) : Prop where
  ascending : positions.Pairwise (· < ·)
  mem_iff : ∀ i, i ∈ positions ↔ results[i]? = some (.bool true)
  kept_eq : kept.map some = positions.map (items[·]?)

section Kept

variable {positions : List Nat} {items results kept : List Value} {item result : Value}

theorem KeptAt.cons_true (h : KeptAt positions items results kept) :
    KeptAt (0 :: positions.map (· + 1)) (item :: items) (.bool true :: results) (item :: kept) := by
  obtain ⟨hascending, hmem, hkept⟩ := h
  constructor
  · refine List.pairwise_cons.2 ⟨by simp, ?_⟩
    simpa [List.pairwise_map] using hascending
  · rintro (_ | i)
    · simp
    · simp [hmem]
  · simp [hkept, Function.comp_def]

theorem KeptAt.cons_other (h : KeptAt positions items results kept)
    (hresult : result ≠ .bool true) :
    KeptAt (positions.map (· + 1)) (item :: items) (result :: results) kept := by
  obtain ⟨hascending, hmem, hkept⟩ := h
  constructor
  · simpa [List.pairwise_map] using hascending
  · rintro (_ | i)
    · simp [hresult]
    · simp [hmem]
  · simp [hkept, Function.comp_def]

theorem exists_keptAt (items results : List Value) (h : results.length = items.length) :
    ∃ positions, KeptAt positions items results (keep items results) := by
  induction items generalizing results with
  | nil =>
    obtain rfl := List.length_eq_zero_iff.1 h
    exact ⟨[], .nil, by simp, rfl⟩
  | cons item rest ih =>
    cases results with
    | nil => cases h
    | cons result results =>
      obtain ⟨positions, hkept⟩ := ih results (by simpa using h)
      cases htruthy : result.isTruthy with
      | true =>
        obtain rfl := Value.isTruthy_iff.1 htruthy
        exact ⟨_, hkept.cons_true⟩
      | false =>
        have hother : result ≠ .bool true := by
          rintro rfl
          cases htruthy
        have hkeep : keep (item :: rest) (result :: results) = keep rest results := by
          simp [keep, htruthy]
        exact ⟨positions.map (· + 1), hkeep ▸ hkept.cons_other hother⟩

theorem KeptAt.first (h : KeptAt positions items results kept) {i : Nat}
    (hi : results.findIdx? (·.isTruthy) = some i) : ∃ rest, positions = i :: rest := by
  obtain ⟨hlt, htrue, hbefore⟩ := List.findIdx?_eq_some_iff_getElem.1 hi
  have hmem : i ∈ positions := by
    rw [h.mem_iff, List.getElem?_eq_getElem hlt, Value.isTruthy_iff.1 htrue]
  cases positions with
  | nil => cases hmem
  | cons first rest =>
    have hfirst := (h.mem_iff first).1 (.head _)
    obtain ⟨hfirstlt, hfirsteq⟩ := List.getElem?_eq_some_iff.1 hfirst
    have hle : i ≤ first := by
      refine Nat.not_lt.1 fun hlt' ↦ hbefore first hlt' ?_
      rw [hfirsteq]
      rfl
    obtain ⟨hrest, -⟩ := List.pairwise_cons.1 h.ascending
    rcases List.mem_cons.1 hmem with rfl | hin
    · exact ⟨rest, rfl⟩
    · have hgt := hrest i hin
      omega

theorem KeptAt.exists_cons {i : Nat} {rest : List Nat}
    (h : KeptAt (i :: rest) items results kept) :
    ∃ item others, kept = item :: others ∧ items[i]? = some item := by
  have hkept := h.kept_eq
  cases kept with
  | nil => cases hkept
  | cons item others =>
    simp only [List.map_cons, List.cons.injEq] at hkept
    exact ⟨item, others, rfl, hkept.1.symm⟩

theorem keep_eq_nil (items : List Value) (h : results.findIdx? (·.isTruthy) = none) :
    keep items results = [] := by
  have hnone := List.findIdx?_eq_none_iff.1 h
  refine List.map_eq_nil_iff.2 (List.filter_eq_nil_iff.2 ?_)
  rintro ⟨item, result⟩ hpair
  simp [hnone result (List.of_mem_zip hpair).2]

end Kept

section Mapped

variable {α : Type} (item result : α → Value) (xs : List α)

theorem keep_map : keep (xs.map item) (xs.map result) =
    (xs.filter fun x ↦ (result x).isTruthy).map item := by
  rw [keep, List.zip_map', List.filter_map, List.map_map]
  rfl

theorem firstTruthy_map : firstTruthy (xs.map result) =
    ((xs.findIdx? fun x ↦ (result x).isTruthy).map Int64.ofNat).getD notFound := by
  have hsame : (xs.map result).findIdx? (·.isTruthy) = xs.findIdx? fun x ↦ (result x).isTruthy :=
    List.findIdx?_map
  rw [firstTruthy, hsame]
  cases xs.findIdx? fun x ↦ (result x).isTruthy with
  | none => rfl
  | some i => rfl

end Mapped

theorem firstTruthy_cases {results : List Value} (h : results.length ≤ Int64.maxValue.toInt) :
    results.findIdx? (·.isTruthy) = none ∧ firstTruthy results = notFound ∨
    ∃ i : Nat, results.findIdx? (·.isTruthy) = some i ∧ (firstTruthy results).toInt = i := by
  cases hi : results.findIdx? (·.isTruthy) with
  | none => exact .inl ⟨rfl, by simp only [firstTruthy, hi]⟩
  | some i =>
    obtain ⟨hlt, -⟩ := List.findIdx?_eq_some_iff_getElem.1 hi
    refine .inr ⟨i, rfl, ?_⟩
    simp only [firstTruthy, hi]
    rw [Int64.toInt_maxValue] at h
    exact Int64.toInt_ofNat_of_lt (by omega)

variable {σ : Type} {calls : Calls σ} {op : Operation} {v w : Value} {seq : Sequence}
  {c : Contract} {p : Passing} {s : σ}

theorem outcome_of_accepts (calls : Calls σ) (h : op.Accepts v w seq c p) (stop : Value → Bool)
    (hstop : op.stop = stop) (s : σ) : (op.apply calls v w s).1 =
      (c.collect calls.recorded p stop 0 seq.items (s, [])).1.map (op.answer v seq c) := by
  rw [apply_recorded calls op v w s [], apply_of_accepts h, hstop]

theorem callsMade_of_accepts (calls : Calls σ) (h : op.Accepts v w seq c p)
    (stop : Value → Bool) (hstop : op.stop = stop) (s : σ) : op.callsMade calls v w s =
      (c.collect calls.recorded p stop 0 seq.items (s, [])).2.2.reverse := by
  rw [callsMade_eq, apply_of_accepts h, hstop]

theorem callsMade_of_denies {failure : Failure} (h : op.Denies v w failure) :
    op.callsMade calls v w s = [] := by
  rw [callsMade_eq, apply_of_denies h, List.reverse_nil]

theorem all_accept_or_deny (v : Value) (hc : Contract.ofValue .predicate w = .ok c) :
    (∃ seq p, ∀ op : Operation, op.Accepts v w seq c p) ∨
      ∃ failure, ∀ op : Operation, op.Denies v w failure := by
  have hall : ∀ op : Operation, Contract.ofValue op.purpose w = .ok c := by
    intro op
    cases op with
    | map =>
      obtain ⟨hw, hparams, hresults, -⟩ := Contract.ofValue_eq_ok_iff.1 hc
      exact Contract.ofValue_eq_ok_iff.2 ⟨hw, hparams, hresults, rfl⟩
    | filter | find | findIndex => exact hc
  cases hs : Sequence.ofValue v with
  | error failure => exact .inr ⟨failure, fun op ↦ .sequence hs⟩
  | ok seq =>
    cases hp : Passing.choose seq c.param with
    | error failure => exact .inr ⟨failure, fun op ↦ .passing seq c hs (hall op) hp⟩
    | ok p => exact .inl ⟨seq, p, fun op ↦ ⟨hs, hall op, hp⟩⟩

theorem items_of_ofValue (hs : Sequence.ofValue v = .ok seq) : v.items?.getD [] = seq.items := by
  rcases Sequence.ofValue_eq_ok_iff.1 hs with ⟨rfl, rfl⟩ | ⟨element, rfl, -⟩ <;> rfl

/-- Mapping and filtering make the same calls, and fail alike or succeed together. What is kept then
is what stands at the positions where the mapped array has `true`. -/
structure MapAgrees (calls : Calls σ) (v w : Value) (s : σ) : Prop where
  calls_eq : map.callsMade calls v w s = filter.callsMade calls v w s
  outcomes : (∃ failure, (map.apply calls v w s).1 = .error failure ∧
      (filter.apply calls v w s).1 = .error failure) ∨
    ∃ element mapped element' kept positions,
      (map.apply calls v w s).1 = .ok (.array element mapped) ∧
      (filter.apply calls v w s).1 = .ok (.array element' kept) ∧
      KeptAt positions (v.items?.getD []) mapped kept

/-- A search makes the first calls of a filter, fails only where the filter fails alike, and finds
the first position that is kept. Its answer is a signed integer of 64 bits, and no array in memory
is longer than these can say. -/
structure SearchAgrees (calls : Calls σ) (v w : Value) (s : σ) : Prop where
  findIndex_calls : findIndex.callsMade calls v w s <+: filter.callsMade calls v w s
  find_calls : find.callsMade calls v w s <+: filter.callsMade calls v w s
  fails : ∀ failure, (findIndex.apply calls v w s).1 = .error failure →
    (filter.apply calls v w s).1 = .error failure
  succeeds : ∀ answered, (filter.apply calls v w s).1 = .ok answered →
    ∃ k, (findIndex.apply calls v w s).1 = .ok (.int k)
  finds : (v.items?.getD []).length ≤ Int64.maxValue.toInt →
    ∀ (k : Int64) (position : Nat) element kept,
    (findIndex.apply calls v w s).1 = .ok (.int k) → k.toInt = position →
    (filter.apply calls v w s).1 = .ok (.array element kept) →
    (∃ item others, kept = item :: others ∧ (v.items?.getD [])[position]? = some item) ∧
      ∃ element' mapped rest, (map.apply calls v w s).1 = .ok (.array element' mapped) ∧
        KeptAt (position :: rest) (v.items?.getD []) mapped kept
  finds_nothing : (v.items?.getD []).length ≤ Int64.maxValue.toInt →
    (findIndex.apply calls v w s).1 = .ok (.int notFound) →
    ∃ element, (filter.apply calls v w s).1 = .ok (.array element [])

theorem mapAgrees_of_accepts (calls : Calls σ) (ha : ∀ op : Operation, op.Accepts v w seq c p)
    (s : σ) : MapAgrees calls v w s := by
  have hmap := outcome_of_accepts calls (ha map) never rfl s
  have hfilter := outcome_of_accepts calls (ha filter) never rfl s
  constructor
  · rw [callsMade_of_accepts calls (ha map) never rfl,
      callsMade_of_accepts calls (ha filter) never rfl]
  · rw [items_of_ofValue (ha map).sequence]
    cases hfull : (c.collect calls.recorded p never 0 seq.items (s, [])).1 with
    | error failure =>
      rw [hfull] at hmap hfilter
      exact .inl ⟨failure, hmap, hfilter⟩
    | ok results =>
      rw [hfull] at hmap hfilter
      have hlength := (Contract.collect_length _ c p never 0 seq.items _ hfull).2 fun _ _ ↦ rfl
      obtain ⟨positions, hkept⟩ := exists_keptAt seq.items results hlength
      exact .inr ⟨_, _, _, _, positions, hmap, hfilter, hkept⟩

theorem found_cases (ha : findIndex.Accepts v w seq c p)
    (hlength : seq.items.length ≤ Int64.maxValue.toInt) {k : Int64}
    (h : (findIndex.apply calls v w s).1 = .ok (.int k)) :
    ∃ results, (c.collect calls.recorded p Value.isTruthy 0 seq.items (s, [])).1 = .ok results ∧
      (results.findIdx? Value.isTruthy = none ∧ k = notFound ∨
        ∃ i : Nat, results.findIdx? Value.isTruthy = some i ∧ k.toInt = i) := by
  rw [outcome_of_accepts calls ha Value.isTruthy rfl] at h
  obtain ⟨results, hcut, hanswer⟩ := map_eq_ok_iff.1 h
  cases hanswer
  have hle := (Contract.collect_length _ c p _ 0 seq.items _ hcut).1
  exact ⟨results, hcut, firstTruthy_cases (Int.le_trans (Int.ofNat_le.2 hle) hlength)⟩

theorem searchAgrees_of_accepts (calls : Calls σ) (ha : ∀ op : Operation, op.Accepts v w seq c p)
    (s : σ) : SearchAgrees calls v w s := by
  have hmap := outcome_of_accepts calls (ha map) never rfl s
  have hfilter := outcome_of_accepts calls (ha filter) never rfl s
  have hfind := outcome_of_accepts calls (ha findIndex) Value.isTruthy rfl s
  have hcuts := c.collect_cuts calls p Value.isTruthy 0 seq.items s []
  have hitems := items_of_ofValue (ha map).sequence
  constructor
  · rw [callsMade_of_accepts calls (ha findIndex) Value.isTruthy rfl,
      callsMade_of_accepts calls (ha filter) never rfl]
    exact List.reverse_prefix.2 hcuts.calls
  · rw [callsMade_of_accepts calls (ha find) Value.isTruthy rfl,
      callsMade_of_accepts calls (ha filter) never rfl]
    exact List.reverse_prefix.2 hcuts.calls
  · intro failure h
    rw [hfind, map_eq_error_iff] at h
    rw [hfilter, map_eq_error_iff]
    exact hcuts.failure h
  · intro answered h
    rw [hfilter] at h
    obtain ⟨all, hfull, -⟩ := map_eq_ok_iff.1 h
    obtain ⟨results, hcut, -⟩ := hcuts.findIdx?_eq hfull
    exact ⟨firstTruthy results, hfind.trans (map_eq_ok_iff.2 ⟨results, hcut, rfl⟩)⟩
  · intro hlength k position element kept hk hposition h
    rw [hitems] at hlength ⊢
    obtain ⟨results, hcut, ⟨-, rfl⟩ | ⟨i, hi, htoInt⟩⟩ := found_cases (ha findIndex) hlength hk
    · cases hposition
    · obtain rfl : i = position := by omega
      rw [hfilter] at h
      obtain ⟨all, hfull, hanswer⟩ := map_eq_ok_iff.1 h
      cases hanswer
      obtain ⟨results', hcut', hsame⟩ := hcuts.findIdx?_eq hfull
      cases hcut.symm.trans hcut'
      have hall := (Contract.collect_length _ c p never 0 seq.items _ hfull).2 fun _ _ ↦ rfl
      obtain ⟨positions, hkept⟩ := exists_keptAt seq.items all hall
      obtain ⟨rest, rfl⟩ := hkept.first (hsame.symm.trans hi)
      rw [hfull] at hmap
      exact ⟨hkept.exists_cons, _, _, rest, hmap, hkept⟩
  · intro hlength h
    rw [hitems] at hlength
    obtain ⟨results, hcut, ⟨hnone, -⟩ | ⟨i, -, htoInt⟩⟩ := found_cases (ha findIndex) hlength h
    · refine ⟨keptType seq c.param, ?_⟩
      rw [hfilter, hcuts.eq_of_none hcut hnone, hcut]
      simp only [Except.map, answer, keep_eq_nil seq.items hnone]
    · cases htoInt

variable {failure : Failure}

theorem mapAgrees_of_denies (calls : Calls σ) (hd : ∀ op : Operation, op.Denies v w failure)
    (s : σ) : MapAgrees calls v w s := by
  constructor
  · rw [callsMade_of_denies (hd map), callsMade_of_denies (hd filter)]
  · exact .inl ⟨failure, by rw [apply_of_denies (hd map)], by rw [apply_of_denies (hd filter)]⟩

theorem searchAgrees_of_denies (calls : Calls σ) (hd : ∀ op : Operation, op.Denies v w failure)
    (s : σ) : SearchAgrees calls v w s := by
  constructor
  · rw [callsMade_of_denies (hd findIndex)]
    exact List.nil_prefix
  · rw [callsMade_of_denies (hd find)]
    exact List.nil_prefix
  · rw [apply_of_denies (hd findIndex), apply_of_denies (hd filter)]
    exact fun _ h ↦ h
  · rw [apply_of_denies (hd filter)]
    nofun
  · rw [apply_of_denies (hd filter)]
    nofun
  · rw [apply_of_denies (hd findIndex)]
    nofun

/-- Whatever a predicate does when it is called, the four operations agree on it: mapping and
filtering go through the same calls, and a search through the first of them. -/
theorem operations_agree (calls : Calls σ) (v : Value) {w : Value} {c : Contract}
    (hc : Contract.ofValue .predicate w = .ok c) (s : σ) :
    MapAgrees calls v w s ∧ SearchAgrees calls v w s := by
  rcases all_accept_or_deny v hc with ⟨seq, p, ha⟩ | ⟨failure, hd⟩
  · exact ⟨mapAgrees_of_accepts calls ha s, searchAgrees_of_accepts calls ha s⟩
  · exact ⟨mapAgrees_of_denies calls hd s, searchAgrees_of_denies calls hd s⟩

theorem odd_found_before_string :
    Contract.ofValue .predicate (.function (Demo.odd.callable 0)) =
        .ok ⟨Demo.odd.callable 0, some .int, .bool, false⟩ ∧
      (findIndex.apply Host.alone.calls (.array .any [.int 2, .int 3, .string "x"])
        (.function (Demo.odd.callable 0)) 1).1 = .ok (.int 1) ∧
      MapAgrees Host.alone.calls (.array .any [.int 2, .int 3, .string "x"])
        (.function (Demo.odd.callable 0)) 1 ∧
      SearchAgrees Host.alone.calls (.array .any [.int 2, .int 3, .string "x"])
        (.function (Demo.odd.callable 0)) 1 := by
  have hc : Contract.ofValue .predicate (.function (Demo.odd.callable 0)) =
    .ok ⟨Demo.odd.callable 0, some .int, .bool, false⟩ := rfl
  exact ⟨hc, rfl, operations_agree Host.alone.calls _ hc 1⟩

end Operation

end DynSeq
