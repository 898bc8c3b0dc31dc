import DynSeq.Proofs.ApplyCourse

namespace DynSeq.Operation

/-- The grounds on which an operation refuses two values before it calls anything, numbered in the
order in which they count, each with the failure that it gives. -/
inductive Refuses (op : Operation) (v w : Value) : Nat → Failure → Prop
  | sequenceKind (hn : v ≠ .null) (ha : ∀ element items, v ≠ .array element items) :
      Refuses op v w 1 (.notASlice v.kindName)
  | strayItem {element : Ty} {items : List Value} {index : Nat} {item : Value}
      (hv : v = .array element items) (hc : element.isInterface = false)
      (hi : items[index]? = some item) (hitem : item.assignableTo element = false)
      (hbefore : ∀ u ∈ items.take index, u.assignableTo element = true) :
      Refuses op v w 2 (.elementNotAssignable index element item.typeName)
  | callableKind (h : ∀ f, w ≠ .function f) : Refuses op v w 3 (.notAFunction w.kindName)
  | parameters {f : Callable} (hw : w = .function f) (h : 1 < f.signature.params.length) :
      Refuses op v w 4 (.badInputArity f.signature.params.length)
  | results {f : Callable} (hw : w = .function f) (hone : f.signature.results.length ≠ 1)
      (htwo : f.signature.results.length ≠ 2) :
      Refuses op v w 5 (.badOutputArity f.signature.results.length none)
  | secondResult {f : Callable} {primary second : Ty} (hw : w = .function f)
      (hr : f.signature.results = [primary, second]) (h : second ≠ .error) :
      Refuses op v w 6 (.secondReturnNotError second.text none)
  | firstResult {f : Callable} {primary : Ty} (hw : w = .function f) (ho : op ≠ .map)
      (hr : f.signature.results.head? = some primary) (h : primary ≠ .bool) :
      Refuses op v w 7 (.firstReturnNotBool primary)
  | staticElement {f : Callable} {element param : Ty} {items : List Value}
      (hv : v = .array element items) (hc : element.isInterface = false) (hi : items ≠ [])
      (hw : w = .function f) (hp : f.signature.params = [param]) (hne : param ≠ element)
      (hna : param ≠ .any) : Refuses op v w 8 (.elementNotAssignable 0 param element.text)
  | firstItem {f : Callable} {element param : Ty} {item : Value} {rest : List Value}
      (hv : v = .array element (item :: rest)) (hc : element.isInterface = true)
      (hw : w = .function f) (hp : f.signature.params = [param])
      (h : item.assignableTo param = false) :
      Refuses op v w 9 (.elementNotAssignable 0 param item.typeName)

/-- The ground that counts: no other with a smaller number applies. -/
def RefusesFirst (op : Operation) (v w : Value) (n : Nat) (failure : Failure) : Prop :=
  op.Refuses v w n failure ∧ ∀ m < n, ∀ other, ¬ op.Refuses v w m other

variable {op : Operation} {v w : Value} {n : Nat} {failure other : Failure}

theorem Refuses.pos (h : op.Refuses v w n failure) : 0 < n := by
  cases h <;> decide

theorem Refuses.two_lt {seq : Sequence} (hs : Sequence.ofValue v = .ok seq)
    (h : op.Refuses v w n failure) : 2 < n := by
  rcases Sequence.ofValue_eq_ok_iff.1 hs with ⟨rfl, -⟩ | ⟨element, rfl, -, hitems⟩
  · cases h with
    | sequenceKind hn => exact absurd rfl hn
    | strayItem hv => cases hv
    | _ => decide
  · cases h with
    | sequenceKind _ ha => exact absurd rfl (ha _ _)
    | strayItem hv hc hi hitem =>
      cases hv
      simp [hitems hc _ (List.mem_of_getElem? hi)] at hitem
    | _ => decide

theorem Refuses.four_lt {seq : Sequence} {f : Callable} {param : Option Ty}
    (hs : Sequence.ofValue v = .ok seq) (hp : Contract.param? f.signature.params = .ok param)
    (h : op.Refuses v (.function f) n failure) : 4 < n := by
  have hlt := h.two_lt hs
  cases h with
  | sequenceKind | strayItem => omega
  | callableKind h => exact absurd rfl (h _)
  | parameters hw h =>
    cases hw
    rw [Contract.param?_eq_ok_iff.1 hp] at h
    cases param <;> simp at h
  | _ => decide

theorem Refuses.six_lt {seq : Sequence} {f : Callable} {param : Option Ty} {primary : Ty}
    {channel : Bool} (hs : Sequence.ofValue v = .ok seq)
    (hp : Contract.param? f.signature.params = .ok param)
    (hr : Contract.results? f.signature.results = .ok (primary, channel))
    (h : op.Refuses v (.function f) n failure) : 6 < n := by
  have hlt := h.four_lt hs hp
  have hresults := Contract.results?_eq_ok_iff.1 hr
  cases h with
  | results hw hone htwo =>
    cases hw
    cases channel <;> simp [hresults] at hone htwo
  | secondResult hw hr' h =>
    cases hw
    cases channel <;> simp [hresults] at hr'
    exact absurd hr'.2.symm h
  | firstResult | staticElement | firstItem => decide
  | _ => omega

theorem Refuses.seven_lt {seq : Sequence} {c : Contract} (hs : Sequence.ofValue v = .ok seq)
    (hc : Contract.ofValue op.purpose w = .ok c) (h : op.Refuses v w n failure) : 7 < n := by
  obtain ⟨rfl, hparams, hresults, hsuits⟩ := Contract.ofValue_eq_ok_iff.1 hc
  have hlt := h.six_lt hs (Contract.param?_eq_ok_iff.2 hparams)
    (Contract.results?_eq_ok_iff.2 hresults)
  cases h with
  | firstResult hw ho hr h =>
    cases hw
    simp only [hresults, List.head?_cons, Option.some.injEq] at hr
    rcases suits_iff.1 hsuits with hmap | hbool
    · exact absurd hmap ho
    · exact absurd (hr.symm.trans hbool) h
  | staticElement | firstItem => decide
  | _ => omega

theorem Refuses.eq_nine {seq : Sequence} {c : Contract} {p : Passing}
    (ha : op.Accepts v w seq c p) (h : op.Refuses v w n failure) : n = 9 := by
  have hlt := h.seven_lt ha.sequence ha.contract
  cases h with
  | @staticElement f element param items hv hc hi hw hp hne hna =>
    subst hv hw
    obtain ⟨hf, hparams, -⟩ := Contract.ofValue_eq_ok_iff.1 ha.contract
    cases hf
    rcases Sequence.ofValue_eq_ok_iff.1 ha.sequence with ⟨h, -⟩ | ⟨element', h, hd, -⟩ <;> cases h
    have hstatic : seq.static? = some element := by simp [Sequence.static?, hd, hc]
    have hparam := Option.toList_eq_singleton_iff.1 (hparams.symm.trans hp)
    have herror := Passing.choose_eq_error_iff.2 ⟨_, _, hparam, hstatic, hi, hne, hna, rfl⟩
    cases ha.passing.symm.trans herror
  | firstItem => rfl
  | _ => omega

theorem refusesFirst_of_sequence (hs : Sequence.ofValue v = .error failure) :
    ∃ n, op.RefusesFirst v w n failure := by
  rcases Sequence.ofValue_error_cases hs with ⟨hn, ha, rfl⟩ | ⟨element, items, rfl, hc, hstray⟩
  · exact ⟨1, .sequenceKind hn ha, fun m hm other h ↦ absurd h.pos (by omega)⟩
  · obtain ⟨index, item, hi, hitem, hbefore, rfl⟩ := Sequence.firstStray_eq_some_iff.1 hstray
    rw [Nat.zero_add]
    refine ⟨2, .strayItem rfl hc hi hitem hbefore, fun m hm other h ↦ ?_⟩
    cases h with
    | sequenceKind hn ha => exact ha _ _ rfl
    | _ => omega

theorem refusesFirst_of_contract {seq : Sequence} (hs : Sequence.ofValue v = .ok seq)
    (hc : Contract.ofValue op.purpose w = .error failure) :
    ∃ n, op.RefusesFirst v w n failure := by
  rcases Contract.ofValue_error_cases hc with ⟨hw, rfl⟩ |
    ⟨f, rfl, hp | ⟨param, hp, hr | ⟨primary, channel, hr, hsuits, rfl⟩⟩⟩
  · refine ⟨3, .callableKind hw, fun m hm other h ↦ ?_⟩
    have hlt := h.two_lt hs
    omega
  · obtain ⟨hlong, rfl⟩ := Contract.param?_eq_error_iff.1 hp
    refine ⟨4, .parameters rfl hlong, fun m hm other h ↦ ?_⟩
    have hlt := h.two_lt hs
    cases h with
    | callableKind h => exact h _ rfl
    | _ => omega
  · rcases Contract.results?_eq_error_iff.1 hr with
      ⟨hone, htwo, rfl⟩ | ⟨primary, second, hresults, hne, rfl⟩
    · refine ⟨5, .results rfl hone htwo, fun m hm other h ↦ ?_⟩
      have hlt := h.four_lt hs hp
      omega
    · refine ⟨6, .secondResult rfl hresults hne, fun m hm other h ↦ ?_⟩
      have hlt := h.four_lt hs hp
      cases h with
      | results hw hone htwo =>
        cases hw
        simp [hresults] at htwo
      | _ => omega
  · have hno : ¬ (op = .map ∨ primary = .bool) := by simp [← suits_iff, hsuits]
    obtain ⟨hmap, hbool⟩ := not_or.1 hno
    refine ⟨7, .firstResult rfl hmap ?_ hbool, fun m hm other h ↦ ?_⟩
    · rw [Contract.results?_eq_ok_iff.1 hr, List.head?_cons]
    · have hlt := h.six_lt hs hp hr
      omega

theorem refusesFirst_of_denies (h : op.Denies v w failure) :
    ∃ n, op.RefusesFirst v w n failure := by
  cases h with
  | sequence hs => exact refusesFirst_of_sequence hs
  | contract seq hs hc => exact refusesFirst_of_contract hs hc
  | passing seq c hs hc hp =>
    obtain ⟨t, element, hparam, hstatic, hi, hne, hna, rfl⟩ := Passing.choose_eq_error_iff.1 hp
    obtain ⟨rfl, hparams, -⟩ := Contract.ofValue_eq_ok_iff.1 hc
    rw [hparam] at hparams
    rcases Sequence.ofValue_eq_ok_iff.1 hs with ⟨-, rfl⟩ | ⟨declared, rfl, hd, -⟩
    · exact absurd rfl hi
    · simp only [Sequence.static?, hd, Option.filter_some] at hstatic
      split at hstatic <;> cases hstatic
      rename_i hopen
      refine ⟨8, .staticElement rfl (by simpa using hopen) hi rfl hparams hne hna, ?_⟩
      intro m hm other h
      have hlt := h.seven_lt hs hc
      omega

theorem Refuses.unique (h : op.Refuses v w n failure) (h' : op.Refuses v w n other) :
    failure = other := by
  cases h with
  | sequenceKind => cases h'; rfl
  | @strayItem element items index item hv hc hi hitem hbefore =>
    cases h' with
    | @strayItem _ _ index' item' hv' hc' hi' hitem' hbefore' =>
      cases hv.symm.trans hv'
      have hstray : Sequence.firstStray element 0 items = some _ :=
        Sequence.firstStray_eq_some_iff.2 ⟨index, item, hi, hitem, hbefore, rfl⟩
      have hstray' : Sequence.firstStray element 0 items = some _ :=
        Sequence.firstStray_eq_some_iff.2 ⟨index', item', hi', hitem', hbefore', rfl⟩
      simpa only [Nat.zero_add] using Option.some.inj (hstray.symm.trans hstray')
  | callableKind => cases h'; rfl
  | parameters hw => cases h' with | parameters hw' => cases hw.symm.trans hw'; rfl
  | results hw => cases h' with | results hw' => cases hw.symm.trans hw'; rfl
  | secondResult hw hr =>
    cases h' with
    | secondResult hw' hr' =>
      cases hw.symm.trans hw'
      cases hr.symm.trans hr'
      rfl
  | firstResult hw ho hr =>
    cases h' with
    | firstResult hw' ho' hr' =>
      cases hw.symm.trans hw'
      cases hr.symm.trans hr'
      rfl
  | staticElement hv hc hi hw hp =>
    cases h' with
    | staticElement hv' hc' hi' hw' hp' =>
      cases hv.symm.trans hv'
      cases hw.symm.trans hw'
      cases hp.symm.trans hp'
      rfl
  | firstItem hv hc hw hp =>
    cases h' with
    | firstItem hv' hc' hw' hp' =>
      cases hv.symm.trans hv'
      cases hw.symm.trans hw'
      cases hp.symm.trans hp'
      rfl

theorem RefusesFirst.unique {m : Nat} (h : op.RefusesFirst v w n failure)
    (h' : op.RefusesFirst v w m other) : failure = other := by
  have hle : n ≤ m := Nat.not_lt.1 fun hlt ↦ h.2 m hlt other h'.1
  have hle' : m ≤ n := Nat.not_lt.1 fun hlt ↦ h'.2 n hlt failure h.1
  obtain rfl := Nat.le_antisymm hle hle'
  exact h.1.unique h'.1

variable {σ : Type} {calls : Calls σ}

theorem Refuses.ends_at_once {seq : Sequence} {c : Contract} {p : Passing}
    (ha : op.Accepts v w seq c p) (h : op.Refuses v w n failure) (s : σ) :
    c.callable.Ends calls seq op.stop s (.error failure) s [] := by
  obtain rfl := h.eq_nine ha
  cases h with
  | firstItem hv hc hw hp h =>
    subst hv hw
    obtain ⟨hf, -⟩ := Contract.ofValue_eq_ok_iff.1 ha.contract
    cases hf
    rcases Sequence.ofValue_eq_ok_iff.1 ha.sequence with ⟨h, -⟩ | ⟨element, hv, hd, -⟩
    · cases h
    · obtain ⟨items, declared⟩ := seq
      cases hv
      cases hd
      exact .stray .start rfl hp (Sequence.isOpen_iff.2 hc) h

theorem refuses_of_ends_nil {seq : Sequence} {c : Contract} {p : Passing}
    (ha : op.Accepts v w seq c p) {s t : σ} {ended : Except Failure (List Value)}
    (h : c.callable.Ends calls seq op.stop s ended t []) :
    (∃ failure, op.Refuses v w 9 failure) ∨ v = .null ∨ ∃ element, v = .array element [] := by
  rcases Sequence.ofValue_eq_ok_iff.1 ha.sequence with ⟨rfl, -⟩ | ⟨element, rfl, hd, -⟩
  · exact .inr (.inl rfl)
  · obtain ⟨items, declared⟩ := seq
    cases hd
    cases items with
    | nil => exact .inr (.inr ⟨element, rfl⟩)
    | cons item rest =>
      obtain ⟨rfl, -⟩ := Contract.ofValue_eq_ok_iff.1 ha.contract
      cases h with
      | exhausted h =>
        have hmade := h.made_eq
        simp [Callable.callsFor] at hmade
      | stray h hi hparams hopen hfit =>
        cases h with
        | start =>
          cases hi
          exact .inl ⟨_, .firstItem rfl (Sequence.isOpen_iff.1 hopen) rfl hparams hfit⟩

theorem made_of_no_items {seq : Sequence} {c : Contract} {p : Passing}
    (ha : op.Accepts v w seq c p) (hv : v = .null ∨ ∃ element, v = .array element [])
    {s t : σ} {made : List (Callable × List Value)} {ended : Except Failure (List Value)}
    (h : c.callable.Ends calls seq op.stop s ended t made) : made = [] := by
  have hitems : seq.items = [] := by
    rcases Sequence.ofValue_eq_ok_iff.1 ha.sequence with ⟨-, rfl⟩ | ⟨element, rfl, -⟩
    · rfl
    · simpa using hv
  obtain ⟨count, -, rfl⟩ := h.made_eq
  simp [hitems, Callable.callsFor]

/-- An operation calls nothing exactly when it refuses its values or has no items to call for, and
the failure is that of the ground that counts. -/
theorem calls_nothing_iff_refuses (calls : Calls σ) (op : Operation) (v w : Value) (s : σ) :
    ((op.apply calls.recorded v w (s, [])).2.2 = [] ↔
      (∃ n failure, op.Refuses v w n failure) ∨ v = .null ∨ ∃ element, v = .array element []) ∧
    ∀ n failure, op.RefusesFirst v w n failure → op.apply calls v w s = (.error failure, s) := by
  rcases apply_cases calls op v w s [] with
    ⟨failure, hd, hrun⟩ | ⟨seq, c, p, ended, t, made, ha, he, hrun⟩
  · obtain ⟨n, hfirst⟩ := refusesFirst_of_denies hd
    refine ⟨iff_of_true (by rw [hrun]) (.inl ⟨n, failure, hfirst.1⟩), fun m other h ↦ ?_⟩
    rw [apply_of_denies hd, hfirst.unique h]
  · rw [hrun, List.append_nil]
    refine ⟨⟨?_, ?_⟩, fun n failure h ↦ ?_⟩
    · rintro rfl
      exact (refuses_of_ends_nil ha he).imp_left fun ⟨failure, h⟩ ↦ ⟨9, failure, h⟩
    · rintro (⟨n, failure, h⟩ | hv)
      · have hend : c.callable.Ends calls seq op.stop s _ s [] := h.ends_at_once ha s
        have hrun' := apply_of_ends ha hend []
        rw [hrun, List.append_nil, List.append_nil] at hrun'
        exact congrArg (·.2.2) hrun'
      · exact made_of_no_items ha hv he
    · rw [apply_recorded calls op v w s [], apply_of_ends ha (h.1.ends_at_once ha s)]
      rfl

theorem stray_before_missing_function :
    find.RefusesFirst (.array .int [.int 1, .null, .string "x"]) (.bool true) 2
        (.elementNotAssignable 1 .int "null") ∧
      find.apply Host.alone.calls (.array .int [.int 1, .null, .string "x"]) (.bool true) 0 =
        (.error (.elementNotAssignable 1 .int "null"), 0) := by
  have h : find.RefusesFirst (.array .int [.int 1, .null, .string "x"]) (.bool true) 2
      (.elementNotAssignable 1 .int "null") := by
    have hground : find.Refuses (.array .int [.int 1, .null, .string "x"]) (.bool true) 2
        (.elementNotAssignable 1 .int (Value.typeName .null)) := by
      refine .strayItem rfl rfl rfl rfl fun u hu ↦ ?_
      obtain rfl := List.mem_singleton.1 hu
      rfl
    refine ⟨hground, fun m hm other h ↦ ?_⟩
    cases h with
    | sequenceKind hn ha => exact ha _ _ rfl
    | _ => omega
  exact ⟨h, (calls_nothing_iff_refuses Host.alone.calls find _ _ 0).2 2 _ h⟩

end DynSeq.Operation
