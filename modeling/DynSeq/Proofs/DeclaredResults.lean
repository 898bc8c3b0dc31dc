import DynSeq.Host
import DynSeq.Proofs.Building

namespace DynSeq.Builder

namespace Step

def returned? : Step → Option Ty
  | .returns t => some t
  | _ => none

def addsResult (step : Step) : Bool :=
  step.result?.isSome

def isFallible : Step → Bool
  | .fallible _ => true
  | _ => false

theorem result?_eq_some_iff {step : Step} {t : Ty} : step.result? = some t ↔
    step = .returns t ∨ ∃ identity, step = .fallible identity ∧ t = .error := by
  cases step <;> simp [result?, eq_comm]

theorem result?_eq_none (step : Step) (h : step.addsResult = false) : step.result? = none := by
  simpa [addsResult] using h

theorem returned?_eq_none (step : Step) (h : step.addsResult = false) : step.returned? = none := by
  cases step with
  | returns t => cases h
  | _ => rfl

end Step

variable {steps : List Step} {t : Ty} {identity : Nat} {i : Implementation}

theorem filterMap_addsResult {α : Type} {g : Step → Option α}
    (hg : ∀ step, step.addsResult = false → g step = none) (steps : List Step) :
    (steps.filter Step.addsResult).filterMap g = steps.filterMap g := by
  induction steps with
  | nil => rfl
  | cons step rest ih =>
    cases hadds : step.addsResult with
    | true => simp only [List.filter_cons, hadds, if_true, List.filterMap_cons, ih]
    | false => simp [hadds, hg step hadds, ih]

theorem map_addsResult (steps : List Step) :
    (steps.filter Step.addsResult).map Step.result? = (steps.filterMap Step.result?).map some := by
  induction steps with
  | nil => rfl
  | cons step rest ih =>
    cases step <;>
      simp [List.filter_cons, List.filterMap_cons, Step.addsResult, Step.result?, ← ih]

theorem length_results (steps : List Step) : (steps.filterMap Step.result?).length =
    (steps.filterMap Step.returned?).length + steps.countP Step.isFallible := by
  induction steps with
  | nil => rfl
  | cons step rest ih =>
    cases step <;> simp [List.filterMap_cons, List.countP_cons, Step.result?, Step.returned?,
      Step.isFallible, ih] <;> omega

theorem fallible_mem (h : (steps.filterMap Step.implementation?).getLast? =
    some ⟨identity, .fallible⟩) : .fallible identity ∈ steps := by
  obtain ⟨step, hstep, himplementation⟩ := List.mem_filterMap.1 (List.mem_of_getLast? h)
  cases step <;> cases himplementation
  exact hstep

/-- There is one function that can fail, and it is given after the one result type is declared.
Where that type is `error` itself, it makes no difference which comes first. -/
def InOrder (steps : List Step) (t : Ty) (identity : Nat) : Prop :=
  steps.filter Step.addsResult = [.returns t, .fallible identity] ∨
    t = .error ∧ steps.filter Step.addsResult = [.fallible identity, .returns t]

theorem results_eq_pair_iff (hreturned : steps.filterMap Step.returned? = [t])
    (hlast : (steps.filterMap Step.implementation?).getLast? = some ⟨identity, .fallible⟩) :
    steps.filterMap Step.result? = [t, .error] ↔ InOrder steps t identity := by
  constructor
  · intro hpair
    have hmem : .fallible identity ∈ steps.filter Step.addsResult :=
      List.mem_filter.2 ⟨fallible_mem hlast, rfl⟩
    have hresults := map_addsResult steps
    rw [hpair] at hresults
    rw [← filterMap_addsResult Step.returned?_eq_none] at hreturned
    unfold InOrder
    generalize steps.filter Step.addsResult = adding at hresults hreturned hmem ⊢
    obtain ⟨first, rest, rfl, hfirst, hrest⟩ := List.map_eq_cons_iff.1 hresults
    obtain ⟨second, nothing, rfl, hsecond, hnothing⟩ := List.map_eq_cons_iff.1 hrest
    obtain rfl := List.map_eq_nil_iff.1 hnothing
    rcases Step.result?_eq_some_iff.1 hfirst with rfl | ⟨j, rfl, rfl⟩ <;>
      rcases Step.result?_eq_some_iff.1 hsecond with rfl | ⟨k, rfl, -⟩
    · cases hreturned
    · have hidentity : identity = k := by simpa using hmem
      exact .inl (by rw [hidentity])
    · have hidentity : identity = j := by simpa using hmem
      exact .inr ⟨rfl, by rw [hidentity]⟩
    · cases hreturned
  · intro horder
    rw [← filterMap_addsResult Step.result?_eq_none]
    rcases horder with h | ⟨rfl, h⟩
    · rw [h]
      rfl
    · rw [h]
      rfl

theorem results_eq_returned_iff :
    steps.filterMap Step.result? = steps.filterMap Step.returned? ↔
      ∀ identity, .fallible identity ∉ steps := by
  constructor
  · intro heq identity hmem
    have hlength := length_results steps
    rw [heq] at hlength
    have hnone : steps.countP Step.isFallible = 0 := by omega
    exact List.countP_eq_zero.1 hnone _ hmem rfl
  · intro hnone
    induction steps with
    | nil => rfl
    | cons step rest ih =>
      have hrest := ih fun identity hmem ↦ hnone identity (.tail _ hmem)
      cases step with
      | fallible identity => exact absurd (.head _) (hnone identity)
      | _ => simp [List.filterMap_cons, Step.result?, Step.returned?, hrest]

/-- A call of a function that can fail, and the call of the callable made of it. -/
inductive PassesOn : Outcome (Except ErrorValue Value) → Outcome (List Value) → Prop
  | value (v : Value) : PassesOn (.returned (.ok v)) (.returned [v, .null])
  | error (e : ErrorValue) : PassesOn (.returned (.error e)) (.returned [.null, .error e])
  | panic (p : Panic) : PassesOn (.panicked p) (.panicked p)

/-- A callable that was built by some steps, the last function given being `i`: what it declares,
and when that is in step with what it returns. -/
structure BuiltBy (steps : List Step) (i : Implementation) (f : Callable) : Prop where
  implementation_eq : f.implementation = i
  params_eq : f.signature.params = steps.filterMap Step.param?
  results_eq : f.signature.results = steps.filterMap Step.result?
  pair_iff : i.routine = .fallible → ∀ t, steps.filterMap Step.returned? = [t] →
    (f.signature.results = [t, .error] ↔ InOrder steps t i.identity)
  passesOn : i.routine = .fallible → ∀ {σ : Type} (h : Host σ) (args : List Value) (s : σ),
    PassesOn (h.fallible i.identity args s).1 (h.calls f args s).1
  returned_iff : i.routine = .results →
    (f.signature.results = steps.filterMap Step.returned? ↔ ∀ identity, .fallible identity ∉ steps)

theorem passesOn_calls {f : Callable} (hf : f.implementation = ⟨identity, .fallible⟩) {σ : Type}
    (h : Host σ) (args : List Value) (s : σ) :
    PassesOn (h.fallible identity args s).1 (h.calls f args s).1 := by
  have hcalls : (h.calls f args s).1 = (h.fallible identity args s).1.map Host.twoResults := by
    simp only [Host.calls, Host.runWith, hf]
  rw [hcalls]
  cases (h.fallible identity args s).1 with
  | returned result =>
    cases result with
    | ok v => exact .value v
    | error e => exact .error e
  | panicked panic => exact .panic panic

/-- Once a function is given, building succeeds. The callable declares a result for each result type
and an error for each function that can fail, in the order of the steps, so that it depends on the
order whether these are the results of the function that is given last. -/
theorem built_in_step (h : (steps.filterMap Step.implementation?).getLast? = some i)
    (name : String) :
    ∃ f, ((new name).addAll steps).build = .ok f ∧ f.name = name ∧ BuiltBy steps i f := by
  refine ⟨_, build_addAll h name, rfl, rfl, rfl, rfl, ?_, ?_, ?_⟩
  · intro hroutine t hreturned
    obtain ⟨identity, routine⟩ := i
    cases hroutine
    exact results_eq_pair_iff hreturned h
  · intro hroutine σ host args s
    obtain ⟨identity, routine⟩ := i
    cases hroutine
    exact passesOn_calls rfl host args s
  · intro _
    exact results_eq_returned_iff

def replacing : List Step :=
  [.results 1, .returns .bool, .param .int, .fallible 2, .param .string]

theorem replaced_in_step :
    (replacing.filterMap Step.implementation?).getLast? = some ⟨2, .fallible⟩ ∧
      ((new "replaced").addAll replacing).build =
        .ok ⟨"replaced", ⟨[.int, .string], [.bool, .error]⟩, ⟨2, .fallible⟩⟩ ∧
      BuiltBy replacing ⟨2, .fallible⟩
        ⟨"replaced", ⟨[.int, .string], [.bool, .error]⟩, ⟨2, .fallible⟩⟩ ∧
      InOrder replacing .bool 2 := by
  have hlast : (replacing.filterMap Step.implementation?).getLast? = some ⟨2, .fallible⟩ := rfl
  have hbuild : ((new "replaced").addAll replacing).build =
    .ok ⟨"replaced", ⟨[.int, .string], [.bool, .error]⟩, ⟨2, .fallible⟩⟩ := rfl
  obtain ⟨f, hf, -, hbuilt⟩ := built_in_step hlast "replaced"
  cases hbuild.symm.trans hf
  exact ⟨hlast, hbuild, hbuilt, (hbuilt.pair_iff rfl .bool rfl).1 rfl⟩

/-- With the function that can fail given before its result type is declared, the error comes
first; with another function given after it, the error is left over. -/
theorem out_of_step :
    (¬ ∀ f, ((new "early").addAll [.fallible 0, .returns .int]).build = .ok f →
      f.signature.results = [.int, .error]) ∧
    ¬ ∀ f, ((new "replaced").addAll [.returns .int, .fallible 0, .results 1]).build = .ok f →
      f.signature.results = [.int] := by
  refine ⟨?_, ?_⟩
  · intro h
    exact absurd (h _ rfl) (by decide)
  · intro h
    exact absurd (h _ rfl) (by decide)

end DynSeq.Builder
