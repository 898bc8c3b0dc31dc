import DynSeq.Builder

namespace DynSeq.Builder

namespace Step

def param? : Step → Option Ty
  | .param t => some t
  | _ => none

def result? : Step → Option Ty
  | .returns t => some t
  | .fallible _ => some .error
  | _ => none

def implementation? : Step → Option Implementation
  | .results identity => some ⟨identity, .results⟩
  | .fallible identity => some ⟨identity, .fallible⟩
  | _ => none

end Step

variable {steps : List Step}

theorem add_eq (b : Builder) (step : Step) : b.add step =
    ⟨b.name, b.params ++ step.param?.toList, b.results ++ step.result?.toList,
      step.implementation?.or b.implementation⟩ := by
  cases step <;> simp [add, Step.param?, Step.result?, Step.implementation?]

theorem addAll_eq (b : Builder) (steps : List Step) : b.addAll steps =
    ⟨b.name, b.params ++ steps.filterMap Step.param?, b.results ++ steps.filterMap Step.result?,
      (steps.filterMap Step.implementation?).getLast?.or b.implementation⟩ := by
  induction steps generalizing b with
  | nil => simp [addAll]
  | cons step rest ih =>
    have hstep : b.addAll (step :: rest) = (b.add step).addAll rest := rfl
    rw [hstep, ih, add_eq]
    cases step <;> simp [List.filterMap_cons, Step.param?, Step.result?, Step.implementation?,
      List.getLast?_cons]

theorem build_addAll {i : Implementation}
    (h : (steps.filterMap Step.implementation?).getLast? = some i) (name : String) :
    ((new name).addAll steps).build =
      .ok ⟨name, ⟨steps.filterMap Step.param?, steps.filterMap Step.result?⟩, i⟩ := by
  rw [addAll_eq, h]
  rfl

/-- The steps to a function that can fail: at most one parameter, wherever it is declared, and
beside that one result type and then the function. -/
structure ForFallible (steps : List Step) (t : Ty) (identity : Nat) : Prop where
  params : (steps.filterMap Step.param?).length ≤ 1
  others : steps.filter (·.param?.isNone) = [.returns t, .fallible identity]

theorem filterMap_others {α : Type} {g : Step → Option α} (hg : ∀ t, g (.param t) = none)
    (steps : List Step) : (steps.filter (·.param?.isNone)).filterMap g = steps.filterMap g := by
  rw [List.filterMap_filter]
  congr 1
  funext step
  cases step with
  | param t => exact (hg t).symm
  | _ => rfl

theorem ForFallible.build_eq {t : Ty} {identity : Nat} (h : ForFallible steps t identity)
    (name : String) : ((new name).addAll steps).build =
      .ok ⟨name, ⟨steps.filterMap Step.param?, [t, .error]⟩, ⟨identity, .fallible⟩⟩ := by
  have hresults : steps.filterMap Step.result? = [t, .error] := by
    rw [← filterMap_others (fun _ ↦ rfl) steps, h.others]
    rfl
  have himplementation : steps.filterMap Step.implementation? = [⟨identity, .fallible⟩] := by
    rw [← filterMap_others (fun _ ↦ rfl) steps, h.others]
    rfl
  rw [build_addAll (i := ⟨identity, .fallible⟩) (by rw [himplementation]; rfl), hresults]

end DynSeq.Builder
