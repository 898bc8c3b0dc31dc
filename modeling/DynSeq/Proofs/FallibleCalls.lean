import DynSeq.Proofs.Agreement
import DynSeq.Proofs.Argument
import DynSeq.Proofs.Building
import DynSeq.Proofs.Refusal

namespace DynSeq

/-- How a function fails that can: it returns an error, or it panics and the error reports that. -/
inductive Outcome.FailsWith : Outcome (Except ErrorValue Value) → ErrorValue → Prop
  | returned (e : ErrorValue) : FailsWith (.returned (.error e)) e
  | panicked (panic : Panic) : FailsWith (.panicked panic) panic.report

def Outcome.judged (index : Nat) : Outcome (Except ErrorValue Value) → Except Failure Value
  | .returned (.ok v) => .ok v
  | .returned (.error e) => .error (.callableFailed index e)
  | .panicked panic => .error (.callableFailed index panic.report)

section Judged

variable {index : Nat} {outcome : Outcome (Except ErrorValue Value)}

theorem Outcome.judged_eq_ok_iff {v : Value} :
    outcome.judged index = .ok v ↔ outcome = .returned (.ok v) := by
  rcases outcome with (e | v) | panic <;> simp [judged]

theorem Outcome.judged_eq_error_iff {failure : Failure} : outcome.judged index = .error failure ↔
    ∃ e, outcome.FailsWith e ∧ failure = .callableFailed index e := by
  constructor
  · intro h
    rcases outcome with (e | v) | panic
    · cases h
      exact ⟨e, .returned e, rfl⟩
    · cases h
    · cases h
      exact ⟨panic.report, .panicked panic, rfl⟩
  · intro h
    obtain ⟨e, hfails, rfl⟩ := h
    cases hfails <;> rfl

theorem Contract.primaryOf_twoResults {c : Contract} (h : c.hasErrorChannel = true) (index : Nat)
    (outcome : Outcome (Except ErrorValue Value)) :
    c.primaryOf index (outcome.map Host.twoResults) = outcome.judged index := by
  rcases outcome with (e | v) | panic <;>
    simp [Outcome.map, Host.twoResults, primaryOf, outCount, h, Outcome.judged]

end Judged

namespace Callable

/-- A callable made of a function that can fail, which is known by its identity. -/
structure IsFallible (f : Callable) (t : Ty) (identity : Nat) : Prop where
  params_le : f.signature.params.length ≤ 1
  results_eq : f.signature.results = [t, .error]
  implementation_eq : f.implementation = ⟨identity, .fallible⟩

def Takes (f : Callable) (item : Value) : Prop :=
  ∀ param, f.signature.params = [param] → item.assignableTo param = true

variable {σ : Type} {h : Host σ} {f : Callable} {t : Ty} {identity : Nat}

theorem IsFallible.calls_eq (hf : f.IsFallible t identity) (args : List Value) (s : σ) :
    h.calls f args s = ((h.fallible identity args s).1.map Host.twoResults,
      (h.fallible identity args s).2) := by
  simp only [Host.calls, Host.runWith, hf.implementation_eq]

theorem IsFallible.contract_eq (hf : f.IsFallible t identity) (op : Operation) :
    Contract.ofValue op.purpose (.function f) =
      if op = .map ∨ t = .bool then .ok ⟨f, f.signature.params.head?, t, true⟩
      else .error (.firstReturnNotBool t) := by
  have hparams : f.signature.params = f.signature.params.head?.toList := by
    have hle := hf.params_le
    generalize f.signature.params = params at hle ⊢
    rcases params with _ | ⟨param, _ | ⟨second, rest⟩⟩
    · rfl
    · rfl
    · simp at hle
  have hresults : Contract.results? f.signature.results = .ok (t, true) :=
    Contract.results?_eq_ok_iff.2 hf.results_eq
  simp only [Contract.ofValue_function, Contract.param?_eq_ok_iff.2 hparams, hresults,
    Operation.suits_iff]

end Callable

namespace Host

/-- The function has been called for the items before the index, one after the other, and has given
a value for each, on none of which the operation ends. -/
inductive Gives {σ : Type} (h : Host σ) (identity : Nat) (f : Callable) (stop : Value → Bool)
    (items : List Value) (s : σ) : Nat → σ → List Value → Prop
  | start : Gives h identity f stop items s 0 s []
  | next {index : Nat} {t t' : σ} {given : List Value} {item v : Value} :
      Gives h identity f stop items s index t given → items[index]? = some item → f.Takes item →
      h.fallible identity (f.given item) t = (.returned (.ok v), t') → stop v = false →
      Gives h identity f stop items s (index + 1) t' (given ++ [v])

/-- The values that the function has given by the end: one for every item, or for those up to the
first on whose value the operation ends. -/
inductive GivesAll {σ : Type} (h : Host σ) (identity : Nat) (f : Callable) (stop : Value → Bool)
    (items : List Value) (s : σ) : List Value → Prop
  | exhausted {t : σ} {given : List Value} :
      Gives h identity f stop items s items.length t given →
      GivesAll h identity f stop items s given
  | stopped {index : Nat} {t t' : σ} {given : List Value} {item v : Value} :
      Gives h identity f stop items s index t given → items[index]? = some item → f.Takes item →
      h.fallible identity (f.given item) t = (.returned (.ok v), t') → stop v = true →
      GivesAll h identity f stop items s (given ++ [v])

/-- The function fails with this error for the item at the index, where the run has come to. -/
inductive FailsAt {σ : Type} (h : Host σ) (identity : Nat) (f : Callable) (stop : Value → Bool)
    (items : List Value) (s : σ) (index : Nat) (e : ErrorValue) : Prop
  | intro {t : σ} {given : List Value} {item : Value} :
      Gives h identity f stop items s index t given → items[index]? = some item → f.Takes item →
      (h.fallible identity (f.given item) t).1.FailsWith e →
      FailsAt h identity f stop items s index e

end Host

namespace Operation

variable {σ : Type} {h : Host σ} {op : Operation} {v : Value} {f : Callable} {t : Ty}
  {identity : Nat} {seq : Sequence} {c : Contract} {p : Passing}

theorem admits_iff_takes (ha : op.Accepts v (.function f) seq c p) {item : Value}
    (hi : item ∈ seq.items) : f.Admits seq item ↔ f.Takes item := by
  constructor
  · intro hadmits param hparams
    rw [← Contract.callable_eq ha.contract] at hadmits hparams
    exact fits_of_admits ha hi hadmits hparams
  · intro htakes param hparams _
    exact htakes param hparams

section Course

variable (hf : f.IsFallible t identity) (ha : op.Accepts v (.function f) seq c p)
include hf ha

theorem hasErrorChannel_eq : c.hasErrorChannel = true := by
  have hc := ha.contract
  rw [hf.contract_eq] at hc
  split at hc <;> cases hc
  rfl

theorem turn_iff {index : Nat} {item : Value} {s s' : σ} {judged : Except Failure Value} :
    f.Turn h.calls seq index item s judged s' ↔ seq.items[index]? = some item ∧ f.Takes item ∧
      (h.fallible identity (f.given item) s).1.judged index = judged ∧
      (h.fallible identity (f.given item) s).2 = s' := by
  have hreads : f.Reads index (h.calls f (f.given item) s).1 judged ↔
      (h.fallible identity (f.given item) s).1.judged index = judged := by
    have hiff : c.callable.Reads index (h.calls f (f.given item) s).1 judged ↔
        c.primaryOf index (h.calls f (f.given item) s).1 = judged := Contract.reads_iff ha.contract
    rw [Contract.callable_eq ha.contract] at hiff
    rw [hiff, hf.calls_eq, Contract.primaryOf_twoResults (hasErrorChannel_eq hf ha)]
  constructor
  · intro hturn
    refine ⟨hturn.getElem, (admits_iff_takes ha hturn.mem).1 hturn.admits, hreads.1 hturn.reads, ?_⟩
    rw [← hturn.leaves, hf.calls_eq]
  · intro hturn
    obtain ⟨hi, htakes, hjudged, hleaves⟩ := hturn
    refine ⟨hi, (admits_iff_takes ha (List.mem_of_getElem? hi)).2 htakes, hreads.2 hjudged, ?_⟩
    rw [← hleaves, hf.calls_eq]

theorem turn_ok_iff {index : Nat} {item r : Value} {s s' : σ} :
    f.Turn h.calls seq index item s (.ok r) s' ↔ seq.items[index]? = some item ∧ f.Takes item ∧
      h.fallible identity (f.given item) s = (.returned (.ok r), s') := by
  rw [turn_iff hf ha, Outcome.judged_eq_ok_iff, Prod.ext_iff]

theorem turn_error_iff {index : Nat} {item : Value} {s s' : σ} {failure : Failure} :
    f.Turn h.calls seq index item s (.error failure) s' ↔ seq.items[index]? = some item ∧
      f.Takes item ∧ (∃ e, (h.fallible identity (f.given item) s).1.FailsWith e ∧
        failure = .callableFailed index e) ∧ (h.fallible identity (f.given item) s).2 = s' := by
  rw [turn_iff hf ha, Outcome.judged_eq_error_iff]

theorem gives_of_reaches {index : Nat} {s s' : σ} {made : List (Callable × List Value)}
    {given : List Value} (hr : f.Reaches h.calls seq op.stop s index s' made given) :
    h.Gives identity f op.stop seq.items s index s' given := by
  induction hr with
  | start => exact .start
  | next hr hturn hstop ih =>
    obtain ⟨hi, htakes, hcall⟩ := (turn_ok_iff hf ha).1 hturn
    exact .next ih hi htakes hcall hstop

theorem exists_reaches_of_gives {index : Nat} {s s' : σ} {given : List Value}
    (hg : h.Gives identity f op.stop seq.items s index s' given) :
    ∃ made, f.Reaches h.calls seq op.stop s index s' made given := by
  induction hg with
  | start => exact ⟨[], .start⟩
  | next hg hi htakes hcall hstop ih =>
    obtain ⟨made, hr⟩ := ih
    exact ⟨_, .next hr ((turn_ok_iff hf ha).2 ⟨hi, htakes, hcall⟩) hstop⟩

theorem ends_ok_iff {s : σ} {given : List Value} :
    (∃ s' made, f.Ends h.calls seq op.stop s (.ok given) s' made) ↔
      h.GivesAll identity f op.stop seq.items s given := by
  constructor
  · intro hends
    obtain ⟨s', made, hends⟩ := hends
    cases hends with
    | exhausted hr => exact .exhausted (gives_of_reaches hf ha hr)
    | stopped hr hturn hstop =>
      obtain ⟨hi, htakes, hcall⟩ := (turn_ok_iff hf ha).1 hturn
      exact .stopped (gives_of_reaches hf ha hr) hi htakes hcall hstop
  · intro hgives
    cases hgives with
    | exhausted hg =>
      obtain ⟨made, hr⟩ := exists_reaches_of_gives hf ha hg
      exact ⟨_, _, .exhausted hr⟩
    | stopped hg hi htakes hcall hstop =>
      obtain ⟨made, hr⟩ := exists_reaches_of_gives hf ha hg
      exact ⟨_, _, .stopped hr ((turn_ok_iff hf ha).2 ⟨hi, htakes, hcall⟩) hstop⟩

theorem ends_error_cases {s s' : σ} {made : List (Callable × List Value)} {failure : Failure}
    (hends : f.Ends h.calls seq op.stop s (.error failure) s' made) :
    failure.kind = .elementNotAssignable ∨ ∃ index e,
      failure = .callableFailed index e ∧ h.FailsAt identity f op.stop seq.items s index e := by
  cases hends with
  | stray => exact .inl rfl
  | failed hr hturn =>
    obtain ⟨hi, htakes, ⟨e, hfails, rfl⟩, -⟩ := (turn_error_iff hf ha).1 hturn
    exact .inr ⟨_, e, rfl, .intro (gives_of_reaches hf ha hr) hi htakes hfails⟩

theorem exists_ends_of_failsAt {s : σ} {index : Nat} {e : ErrorValue}
    (hfails : h.FailsAt identity f op.stop seq.items s index e) :
    ∃ s' made, f.Ends h.calls seq op.stop s (.error (.callableFailed index e)) s' made := by
  cases hfails with
  | intro hg hi htakes hfails =>
    obtain ⟨made, hr⟩ := exists_reaches_of_gives hf ha hg
    exact ⟨_, _, .failed hr ((turn_error_iff hf ha).2 ⟨hi, htakes, ⟨e, hfails, rfl⟩, rfl⟩)⟩

end Course

theorem denies_cases (hf : f.IsFallible t identity)
    (hv : v = .null ∨ ∃ element items, v = .array element items) {failure : Failure}
    (hd : op.Denies v (.function f) failure) : failure.kind = .elementNotAssignable ∨
      Contract.ofValue op.purpose (.function f) = .error failure ∧
        failure.kind = .firstReturnNotBool := by
  cases hd with
  | sequence hs =>
    rcases Sequence.ofValue_error_cases hs with ⟨hnull, harray, -⟩ | ⟨element, items, -, -, hstray⟩
    · rcases hv with hv | ⟨element, items, hv⟩
      · exact absurd hv hnull
      · exact absurd hv (harray element items)
    · obtain ⟨index, item, -, -, -, rfl⟩ := Sequence.firstStray_eq_some_iff.1 hstray
      exact .inl rfl
  | contract seq hs hc =>
    refine .inr ⟨hc, ?_⟩
    rw [hf.contract_eq] at hc
    split at hc <;> cases hc
    rfl
  | passing seq c hs hc hp =>
    obtain ⟨param, element, -, -, -, -, -, rfl⟩ := Passing.choose_eq_error_iff.1 hp
    exact .inl rfl

/-- How an operation gets along with a function that can fail. It takes errors for failures only
where the function fails, at the index of the item, and anything else that the function gives as it
is, be it null or an error value. -/
structure KeepsConvention (h : Host σ) (identity : Nat) (f : Callable) (t : Ty) (op : Operation)
    (v : Value) (s : σ) : Prop where
  accepted_iff : (∃ c, Contract.ofValue op.purpose (.function f) = .ok c) ↔ op = .map ∨ t = .bool
  kinds : ∀ c failure, Contract.ofValue op.purpose (.function f) = .ok c →
    (op.apply h.calls v (.function f) s).1 = .error failure →
    failure.kind = .elementNotAssignable ∨ failure.kind = .callableFailed
  failed_iff : ∀ index e,
    (op.apply h.calls v (.function f) s).1 = .error (.callableFailed index e) ↔
      (∃ seq c p, op.Accepts v (.function f) seq c p) ∧
      h.FailsAt identity f op.stop (v.items?.getD []) s index e
  answered_iff : ∀ answered, (op.apply h.calls v (.function f) s).1 = .ok answered ↔
    ∃ seq c p given, op.Accepts v (.function f) seq c p ∧
      h.GivesAll identity f op.stop (v.items?.getD []) s given ∧ answered = op.answer v seq c given

theorem failed_cases (hf : f.IsFallible t identity)
    (hv : v = .null ∨ ∃ element items, v = .array element items) {s : σ} {failure : Failure}
    (hfailed : (op.apply h.calls v (.function f) s).1 = .error failure) :
    failure.kind = .elementNotAssignable ∨
    (Contract.ofValue op.purpose (.function f) = .error failure ∧
      failure.kind = .firstReturnNotBool) ∨
    ∃ index e, failure = .callableFailed index e ∧
      (∃ seq c p, op.Accepts v (.function f) seq c p) ∧
      h.FailsAt identity f op.stop (v.items?.getD []) s index e := by
  rcases denied_or_ended hfailed with hd | ⟨seq, c, p, s', made, ha, hends⟩
  · rcases denies_cases hf hv hd with hkind | hcontract
    · exact .inl hkind
    · exact .inr (.inl hcontract)
  · rw [Contract.callable_eq ha.contract] at hends
    rw [items_of_ofValue ha.sequence]
    rcases ends_error_cases hf ha hends with hkind | ⟨index, e, rfl, hfails⟩
    · exact .inl hkind
    · exact .inr (.inr ⟨index, e, rfl, ⟨seq, c, p, ha⟩, hfails⟩)

theorem keepsConvention (hf : f.IsFallible t identity)
    (hv : v = .null ∨ ∃ element items, v = .array element items) (h : Host σ) (op : Operation)
    (s : σ) : KeepsConvention h identity f t op v s := by
  constructor
  · rw [hf.contract_eq]
    split
    · rename_i haccepted
      exact iff_of_true ⟨_, rfl⟩ haccepted
    · rename_i hrefused
      exact iff_of_false nofun hrefused
  · intro c failure hc hfailed
    rcases failed_cases hf hv hfailed with hkind | ⟨hcontract, -⟩ | ⟨index, e, rfl, -⟩
    · exact .inl hkind
    · cases hc.symm.trans hcontract
    · exact .inr rfl
  · intro index e
    constructor
    · intro hfailed
      rcases failed_cases hf hv hfailed with hkind | ⟨-, hkind⟩ | ⟨index', e', heq, hfails⟩
      · cases hkind
      · cases hkind
      · cases heq
        exact hfails
    · intro hfails
      obtain ⟨⟨seq, c, p, ha⟩, hfails⟩ := hfails
      rw [items_of_ofValue ha.sequence] at hfails
      obtain ⟨s', made, hends⟩ := exists_ends_of_failsAt hf ha hfails
      rw [← Contract.callable_eq ha.contract] at hends
      rw [outcome_of_ends ha hends, Except.map]
  · intro answered
    constructor
    · intro hanswered
      obtain ⟨seq, c, p, given, s', made, ha, hends, rfl⟩ := ends_of_answered hanswered
      rw [Contract.callable_eq ha.contract] at hends
      refine ⟨seq, c, p, given, ha, ?_, rfl⟩
      rw [items_of_ofValue ha.sequence]
      exact (ends_ok_iff hf ha).1 ⟨s', made, hends⟩
    · intro hgiven
      obtain ⟨seq, c, p, given, ha, hgives, rfl⟩ := hgiven
      rw [items_of_ofValue ha.sequence] at hgives
      obtain ⟨s', made, hends⟩ := (ends_ok_iff hf ha).2 hgives
      rw [← Contract.callable_eq ha.contract] at hends
      rw [outcome_of_ends ha hends, Except.map]

/-- Building a function that can fail succeeds, and whatever it does then, operations keep to what
its result for errors means. -/
theorem fallible_keeps_convention {steps : List Builder.Step}
    (hsteps : Builder.ForFallible steps t identity) (name : String) :
    ∃ f, ((Builder.new name).addAll steps).build = .ok f ∧ f.name = name ∧
      ∀ {σ : Type} (h : Host σ) (op : Operation) (v : Value) (s : σ),
        v = .null ∨ (∃ element items, v = .array element items) →
        KeepsConvention h identity f t op v s :=
  ⟨_, hsteps.build_eq name, rfl, fun h op _ s hv ↦
    keepsConvention ⟨hsteps.params, rfl, rfl⟩ hv h op s⟩

def wavering : Host Nat :=
  { Host.alone with
    fallible := fun _ _ turn ↦
      (.returned (match turn with
        | 0 => .ok (.error (.mk 7 (.message "kept")))
        | 1 => .ok .null
        | _ => .error (.mk 8 (.message "lost"))), turn + 1) }

def waveringSteps : List Builder.Step :=
  [.returns .any, .param .int, .fallible 4]

def waver : Callable :=
  ⟨"waver", ⟨[.int], [.any, .error]⟩, ⟨4, .fallible⟩⟩

theorem error_kept_and_error_lost :
    Builder.ForFallible waveringSteps .any 4 ∧
      ((Builder.new "waver").addAll waveringSteps).build = .ok waver ∧
      (map.apply wavering.calls (.array .int [.int 1, .int 2]) (.function waver) 0).1 =
        .ok (.array .any [.error (.mk 7 (.message "kept")), .null]) ∧
      (map.apply wavering.calls (.array .int [.int 1, .int 2, .int 3]) (.function waver) 0).1 =
        .error (.callableFailed 2 (.mk 8 (.message "lost"))) ∧
      KeepsConvention wavering 4 waver .any map (.array .int [.int 1, .int 2, .int 3]) 0 ∧
      wavering.FailsAt 4 waver map.stop [.int 1, .int 2, .int 3] 0 2 (.mk 8 (.message "lost")) := by
  have hsteps : Builder.ForFallible waveringSteps .any 4 := ⟨by decide, rfl⟩
  have hbuild : ((Builder.new "waver").addAll waveringSteps).build = .ok waver := rfl
  have hfailed : (map.apply wavering.calls (.array .int [.int 1, .int 2, .int 3])
    (.function waver) 0).1 = .error (.callableFailed 2 (.mk 8 (.message "lost"))) := rfl
  obtain ⟨f, hf, -, hkeeps⟩ := fallible_keeps_convention hsteps "waver"
  cases hbuild.symm.trans hf
  have hconvention := hkeeps wavering map (.array .int [.int 1, .int 2, .int 3]) 0
    (.inr ⟨_, _, rfl⟩)
  exact ⟨hsteps, hbuild, rfl, hfailed, hconvention, ((hconvention.failed_iff _ _).1 hfailed).2⟩

end Operation

end DynSeq
