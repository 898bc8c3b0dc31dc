import DynSeq.Proofs.ApplyCourse
import DynSeq.Proofs.TypeText

namespace DynSeq

theorem Value.runtimeType?_of_assignableTo {v : Value} {t : Ty} (h : v.assignableTo t = true)
    (hv : v ≠ .null) (ht : t ≠ .any) : v.runtimeType? = some t := by
  unfold assignableTo at h
  split at h
  · rename_i u hu
    rcases Ty.assignableTo_iff.1 h with rfl | rfl
    · exact hu
    · exact absurd rfl ht
  · rename_i hn
    cases v <;> simp [runtimeType?] at hn hv

theorem Callable.Reads.not_stray {f : Callable} {index position : Nat}
    {outcome : Outcome (List Value)} {expected : Ty} {found : String} :
    ¬ f.Reads index outcome (.error (.elementNotAssignable position expected found)) :=
  nofun

theorem Callable.Ends.stray_item {σ : Type} {calls : Calls σ} {f : Callable} {seq : Sequence}
    {stop : Value → Bool} {s t : σ} {made : List (Callable × List Value)} {index : Nat}
    {expected : Ty} {found : String}
    (h : f.Ends calls seq stop s (.error (.elementNotAssignable index expected found)) t made) :
    ∃ item, seq.items[index]? = some item ∧ found = item.typeName := by
  cases h with
  | stray _ hi => exact ⟨_, hi, rfl⟩
  | failed _ hturn => exact absurd hturn.reads Callable.Reads.not_stray

theorem Sequence.ofValue_array {element : Ty} {items : List Value}
    (hfit : ∀ item ∈ items, item.assignableTo element = true) :
    ofValue (.array element items) = .ok ⟨items, some element⟩ :=
  ofValue_eq_ok_iff.2 (.inr ⟨element, rfl, rfl, fun _ ↦ hfit⟩)

namespace Contract

variable {σ : Type} {c : Contract} {element : Ty} {items : List Value} {p q : Passing}

theorem collect_checked (calls : Calls σ) (c : Contract) (stop : Value → Bool) {param : Ty}
    (h : ∀ item ∈ items, item.assignableTo param = true) (index : Nat) (s : σ) :
    collect calls c (.checked param) stop index items s =
      collect calls c .each stop index items s := by
  induction items generalizing index s with
  | nil => rfl
  | cons item rest ih =>
    obtain ⟨hitem, hrest⟩ := List.forall_mem_cons.1 h
    have hstep : step calls c (.checked param) index item s = step calls c .each index item s := by
      simp only [step, Passing.arguments, hitem, if_true]
    simp only [collect, hstep, ih hrest]

theorem choose_open (items : List Value) (param : Option Ty) :
    Passing.choose ⟨items, some .any⟩ param = .ok (param.elim .nothing .checked) := by
  cases param <;> rfl

theorem collect_of_choose_ok (calls : Calls σ) (stop : Value → Bool)
    (hc : element.isInterface = false)
    (hfit : ∀ item ∈ items, item.assignableTo element = true)
    (hp : Passing.choose ⟨items, some element⟩ c.param = .ok p)
    (hq : Passing.choose ⟨items, some .any⟩ c.param = .ok q) (s : σ) :
    collect calls c q stop 0 items s = collect calls c p stop 0 items s := by
  rw [choose_open] at hq
  cases hq
  cases hparam : c.param with
  | none =>
    rw [hparam] at hp
    cases hp
    rfl
  | some t =>
    simp only [hparam, Passing.choose, Sequence.static?_eq, hc, Bool.false_eq_true, if_false] at hp
    split at hp <;> cases hp
    rename_i hone
    refine collect_checked calls c stop (fun item hi ↦ ?_) 0 s
    rcases Bool.or_eq_true_iff.1 hone with hnil | hassign
    · rw [List.isEmpty_iff.1 hnil] at hi
      cases hi
    · exact Value.assignableTo_trans (hfit item hi) hassign

theorem collect_of_choose_error (calls : Calls σ) (stop : Value → Bool) {failure : Failure}
    (hfit : ∀ item ∈ items, item.assignableTo element = true)
    (hnull : items.head? ≠ some .null)
    (hp : Passing.choose ⟨items, some element⟩ c.param = .error failure)
    (hq : Passing.choose ⟨items, some .any⟩ c.param = .ok q) (s : σ) :
    collect calls c q stop 0 items s = (.error failure, s) := by
  obtain ⟨t, element', hparam, hstatic, hitems, hne, hany, rfl⟩ :=
    Passing.choose_eq_error_iff.1 hp
  simp only [choose_open, hparam, Option.elim_some, Except.ok.injEq] at hq
  subst hq
  simp only [Sequence.static?, Option.filter_eq_some_iff, Option.some.injEq] at hstatic
  obtain ⟨rfl, hc⟩ := hstatic
  cases items with
  | nil => exact absurd rfl hitems
  | cons item rest =>
    have hitem : item.runtimeType? = some element := by
      refine Value.runtimeType?_of_assignableTo (hfit item (.head _)) ?_ ?_
      · rintro rfl
        exact hnull rfl
      · rintro rfl
        cases hc
    have hstray : item.assignableTo t = false := by
      simp only [Value.assignableTo, hitem]
      simp [Ty.assignableTo, hne.symm, hany]
    have hname : item.typeName = element.text := by simp only [Value.typeName, hitem]
    simp only [collect, step, Passing.arguments, hstray, Bool.false_eq_true, if_false, hname]

end Contract

namespace Operation

variable {σ : Type} {op : Operation} {element : Ty} {items : List Value} {f : Callable}
  {c : Contract}

/-- What an operation says over an array and over an open array of the same items: the same, except
that a filtered array declares what the array that it comes from declares. -/
inductive Alike (op : Operation) (element : Ty) :
    Except Failure Value → Except Failure Value → Prop
  | failed (failure : Failure) : Alike op element (.error failure) (.error failure)
  | answered (v : Value) (h : op ≠ .filter) : Alike op element (.ok v) (.ok v)
  | filtered (kept : List Value) (h : op = .filter) :
      Alike op element (.ok (.array element kept)) (.ok (.array .any kept))

theorem alike_answer (op : Operation) (element : Ty) (items : List Value) (c : Contract)
    (ran : Except Failure (List Value)) :
    op.Alike element (ran.map (op.answer (.array element items) ⟨items, some element⟩ c))
      (ran.map (op.answer (.array .any items) ⟨items, some .any⟩ c)) := by
  cases ran with
  | error failure => exact .failed failure
  | ok results =>
    cases op with
    | filter => exact .filtered _ rfl
    | map | find | findIndex => exact .answered _ nofun

/-- Over an open array an operation does what it does over an array that declares a type for the
same items: it says the same, leaves the same state and has made the same calls. -/
structure SameOpen (calls : Calls σ) (op : Operation) (element : Ty) (items : List Value)
    (w : Value) (s : σ) : Prop where
  outcome : op.Alike element (op.apply calls (.array element items) w s).1
    (op.apply calls (.array .any items) w s).1
  state : (op.apply calls (.array element items) w s).2 =
    (op.apply calls (.array .any items) w s).2
  log : (op.apply calls.recorded (.array element items) w (s, [])).2.2 =
    (op.apply calls.recorded (.array .any items) w (s, [])).2.2

theorem accepts_open (items : List Value) (hf : Contract.ofValue op.purpose (.function f) = .ok c) :
    op.Accepts (.array .any items) (.function f) ⟨items, some .any⟩ c
      (c.param.elim .nothing .checked) :=
  ⟨rfl, hf, Contract.choose_open items c.param⟩

theorem apply_open (calls : Calls σ) (hc : element.isInterface = false)
    (hfit : ∀ item ∈ items, item.assignableTo element = true)
    (hf : Contract.ofValue op.purpose (.function f) = .ok c)
    (h : ∀ param, c.param = some param →
      element.assignableTo param = true ∨ items.head? ≠ some .null) (s : σ) :
    op.Alike element (op.apply calls (.array element items) (.function f) s).1
        (op.apply calls (.array .any items) (.function f) s).1 ∧
      (op.apply calls (.array element items) (.function f) s).2 =
        (op.apply calls (.array .any items) (.function f) s).2 := by
  have hopen := accepts_open items hf
  rw [apply_of_accepts hopen]
  cases hp : Passing.choose ⟨items, some element⟩ c.param with
  | ok p =>
    rw [apply_of_accepts ⟨Sequence.ofValue_array hfit, hf, hp⟩,
      Contract.collect_of_choose_ok calls op.stop hc hfit hp hopen.passing]
    exact ⟨alike_answer op element items c _, rfl⟩
  | error failure =>
    obtain ⟨t, element', hparam, hstatic, -, hne, hany, -⟩ := Passing.choose_eq_error_iff.1 hp
    have hnull : items.head? ≠ some .null := by
      refine (h t hparam).resolve_left fun hassign ↦ ?_
      rw [Sequence.static?_eq, hc] at hstatic
      cases hstatic
      rcases Ty.assignableTo_iff.1 hassign with rfl | rfl
      · exact hne rfl
      · exact hany rfl
    rw [apply_of_denies (.passing _ c (Sequence.ofValue_array hfit) hf hp),
      Contract.collect_of_choose_error calls op.stop hfit hnull hp hopen.passing]
    exact ⟨.failed failure, rfl⟩

theorem not_alike_of_null (calls : Calls σ) (hc : element.isInterface = false)
    (hfit : ∀ item ∈ items, item.assignableTo element = true)
    (hf : Contract.ofValue op.purpose (.function f) = .ok c) {param : Ty}
    (hparam : c.param = some param) (hassign : element.assignableTo param = false)
    (hnull : items.head? = some .null) (s : σ) :
    ¬ op.Alike element (op.apply calls (.array element items) (.function f) s).1
      (op.apply calls (.array .any items) (.function f) s).1 := by
  have hopen := accepts_open items hf
  obtain ⟨rest, rfl⟩ := List.head?_eq_some_iff.1 hnull
  have hp : Passing.choose ⟨.null :: rest, some element⟩ c.param =
      .error (.elementNotAssignable 0 param element.text) := by
    simp [hparam, Passing.choose, Sequence.static?_eq, hc, hassign]
  obtain ⟨ended, t, made, he⟩ := Contract.exists_ends calls ⟨.null :: rest, some .any⟩ op.stop hf s
  rw [apply_of_denies (.passing _ c (Sequence.ofValue_array hfit) hf hp),
    apply_recorded calls op (.array .any _) _ s [], apply_of_ends hopen he]
  intro halike
  cases ended with
  | ok results => cases halike
  | error failure =>
    cases halike
    obtain ⟨item, hi, hname⟩ := he.stray_item
    cases hi
    exact Ty.text_ne_null element hname

theorem sameOpen_of_contract_error (calls : Calls σ)
    (hfit : ∀ item ∈ items, item.assignableTo element = true) {failure : Failure}
    (hf : Contract.ofValue op.purpose (.function f) = .error failure) (s : σ) :
    SameOpen calls op element items (.function f) s := by
  have hdenied : op.Denies (.array element items) (.function f) failure :=
    .contract _ (Sequence.ofValue_array hfit) hf
  have hdenied' : op.Denies (.array .any items) (.function f) failure := .contract _ rfl hf
  constructor
  · rw [apply_of_denies hdenied, apply_of_denies hdenied']
    exact .failed failure
  · rw [apply_of_denies hdenied, apply_of_denies hdenied']
  · rw [apply_of_denies hdenied, apply_of_denies hdenied']

/-- A difference needs a parameter that the declared type does not fit, and null as first item. -/
theorem sameOpen_iff (calls : Calls σ) (hc : element.isInterface = false)
    (hfit : ∀ item ∈ items, item.assignableTo element = true)
    (hf : Contract.ofValue op.purpose (.function f) = .ok c) (s : σ) :
    SameOpen calls op element items (.function f) s ↔ ∀ param, f.signature.params = [param] →
      element.assignableTo param = true ∨ items.head? ≠ some .null := by
  obtain ⟨hcallable, hparams, -⟩ := Contract.ofValue_eq_ok_iff.1 hf
  cases hcallable
  simp only [hparams, Option.toList_eq_singleton_iff]
  constructor
  · intro h param hparam
    cases hassign : element.assignableTo param with
    | true => exact .inl rfl
    | false =>
      exact .inr fun hnull ↦ not_alike_of_null calls hc hfit hf hparam hassign hnull s h.outcome
  · intro h
    obtain ⟨houtcome, hstate⟩ := apply_open calls hc hfit hf h s
    obtain ⟨-, hrecorded⟩ := apply_open calls.recorded hc hfit hf h (s, [])
    exact ⟨houtcome, hstate, congrArg (·.2) hrecorded⟩

/-- Whether the items of an array are taken to have the declared type, or looked at one by one,
makes no difference if the callable takes no parameter, the declared type fits it, or no item is
null. For a callable that is accepted, null only matters as the first item. -/
theorem apply_sameOpen (calls : Calls σ) (op : Operation) {seq : Sequence}
    (hc : element.isInterface = false) (hs : Sequence.ofValue (.array element items) = .ok seq)
    (f : Callable) (s : σ) :
    (f.signature.params = [] ∨
        (∃ param, f.signature.params = [param] ∧ element.assignableTo param = true) ∨
        .null ∉ items →
      SameOpen calls op element items (.function f) s) ∧
    ∀ contract, Contract.ofValue op.purpose (.function f) = .ok contract →
      (SameOpen calls op element items (.function f) s ↔ ∀ param, f.signature.params = [param] →
        element.assignableTo param = true ∨ items.head? ≠ some .null) := by
  have hfit : ∀ item ∈ items, item.assignableTo element = true := by
    rcases Sequence.ofValue_eq_ok_iff.1 hs with ⟨h, -⟩ | ⟨_, h, -, hfit⟩ <;> cases h
    exact hfit hc
  refine ⟨fun h ↦ ?_, fun contract hf ↦ sameOpen_iff calls hc hfit hf s⟩
  cases hf : Contract.ofValue op.purpose (.function f) with
  | error failure => exact sameOpen_of_contract_error calls hfit hf s
  | ok contract =>
    refine (sameOpen_iff calls hc hfit hf s).2 fun param hparams ↦ ?_
    rcases h with hnone | ⟨param', hparams', hassign⟩ | hnull
    · rw [hparams] at hnone
      cases hnone
    · cases hparams.symm.trans hparams'
      exact .inl hassign
    · exact .inr fun hhead ↦ hnull (List.mem_of_head? hhead)

theorem filter_sameOpen_with_null :
    Ty.isInterface (.array .int) = false ∧
      Sequence.ofValue (.array (.array .int) [.null, .array .int [.int 3]]) =
        .ok ⟨[.null, .array .int [.int 3]], some (.array .int)⟩ ∧
      Ty.assignableTo (.array .int) .any = true ∧
      SameOpen Host.alone.calls filter (.array .int) [.null, .array .int [.int 3]]
        (.function ⟨"some", ⟨[.any], [.bool]⟩, ⟨0, .demo .never⟩⟩) 0 := by
  have hs : Sequence.ofValue (.array (.array .int) [.null, .array .int [.int 3]]) =
    .ok ⟨[.null, .array .int [.int 3]], some (.array .int)⟩ := rfl
  exact ⟨rfl, hs, rfl, (apply_sameOpen Host.alone.calls filter rfl hs _ 0).1
    (.inr (.inl ⟨.any, rfl, rfl⟩))⟩

end Operation

end DynSeq
