import DynSeq.Proofs.Execution
import DynSeq.Proofs.LoadedDocument
import DynSeq.Proofs.OpenArray
import DynSeq.Proofs.Recoverable

namespace DynSeq

/-- Outcomes for items and for the same items without their types: both succeed with what is alike,
or both fail alike, except for the name under which an array is reported as stray. -/
inductive NamesAside {α : Type} (alike : α → α → Prop) (items : List Value) :
    Except Failure α → Except Failure α → Prop
  | answered {a b : α} (h : alike a b) : NamesAside alike items (.ok a) (.ok b)
  | failed (failure : Failure) : NamesAside alike items (.error failure) (.error failure)
  | array {index : Nat} {element : Ty} {inner : List Value}
      (h : items[index]? = some (.array element inner)) (expected : Ty) (found found' : String) :
      NamesAside alike items (.error (.elementNotAssignable index expected found))
        (.error (.elementNotAssignable index expected found'))

namespace NamesAside

variable {α β : Type} {alike : α → α → Prop} {alike' : β → β → Prop} {items : List Value}

theorem refl (h : ∀ a, alike a a) (x : Except Failure α) : NamesAside alike items x x := by
  cases x with
  | error failure => exact .failed failure
  | ok a => exact .answered (h a)

theorem map {x y : Except Failure α} (h : NamesAside alike items x y) {f g : α → β}
    (hfg : ∀ a b, alike a b → alike' (f a) (g b)) :
    NamesAside alike' items (x.map f) (y.map g) := by
  cases h with
  | answered h => exact .answered (hfg _ _ h)
  | failed failure => exact .failed failure
  | array h expected found found' => exact .array h expected found found'

end NamesAside

namespace Value

def SameErased (v w : Value) : Prop :=
  v.erased = w.erased

theorem sameErased_erased (v : Value) : v.SameErased v.erased :=
  v.erased_erased.symm

theorem sameErased_array (element element' : Ty) (items : List Value) :
    (array element items).SameErased (array element' (items.map erased)) := by
  rw [SameErased, erased, erased, ← erasedAll_eq_map, erasedAll_erasedAll]

theorem erased_eq_or_array (v : Value) :
    v.erased = v ∨ ∃ element items, v = .array element items := by
  cases v with
  | array element items => exact .inr ⟨element, items, rfl⟩
  | _ => exact .inl rfl

theorem not_assignableTo_int (element : Ty) (items : List Value) :
    (array element items).assignableTo .int = false := by
  rw [← Bool.not_eq_true, assignableTo_int]
  nofun

end Value

namespace Demo

variable {σ : Type}

def openPassing (d : Demo) : Passing :=
  d.signature.params.head?.elim .nothing .checked

theorem arguments_namesAside (d : Demo) {items : List Value} {index : Nat} {item : Value}
    (hi : items[index]? = some item) :
    NamesAside Eq items (d.openPassing.arguments index item)
      (d.openPassing.arguments index item.erased) := by
  rcases item.erased_eq_or_array with h | ⟨element, inner, rfl⟩
  · rw [h]
    exact .refl (fun _ ↦ rfl) _
  · cases d with
    | never => exact .answered rfl
    | inc | odd =>
      have hstray (element : Ty) (inner : List Value) :
          (Passing.checked .int).arguments index (.array element inner) =
            .error (.elementNotAssignable index .int (Value.array element inner).typeName) := by
        simp [Passing.arguments, Value.not_assignableTo_int]
      have hpassing : openPassing .inc = .checked .int := rfl
      have hpassing' : openPassing .odd = .checked .int := rfl
      simp only [hpassing, hpassing', Value.erased, hstray]
      exact .array hi .int _ _

theorem collect_namesAside (h : Host σ) (d : Demo) (identity : Nat) (stop : Value → Bool)
    (before items : List Value) (s : σ) :
    NamesAside Eq (before ++ items)
      (Contract.collect h.calls (d.contract identity) d.openPassing stop before.length items s).1
      (Contract.collect h.calls (d.contract identity) d.openPassing stop before.length
        (items.map Value.erased) s).1 := by
  induction items generalizing before with
  | nil => exact .answered rfl
  | cons item rest ih =>
    have hi : (before ++ item :: rest)[before.length]? = some item := by simp
    have hresult : NamesAside Eq (before ++ item :: rest)
        ((d.openPassing.arguments before.length item).map d.result)
        ((d.openPassing.arguments before.length item.erased).map d.result) :=
      (d.arguments_namesAside hi).map fun _ _ h ↦ congrArg d.result h
    have hstep := d.step_eq h identity d.openPassing before.length item s
    have hstep' := d.step_eq h identity d.openPassing before.length item.erased s
    rw [List.map_cons]
    generalize (d.openPassing.arguments before.length item).map d.result = judged at hresult hstep
    generalize (d.openPassing.arguments before.length item.erased).map d.result = judged'
      at hresult hstep'
    cases hresult with
    | failed failure =>
      rw [Contract.collect_of_failure hstep, Contract.collect_of_failure hstep']
      exact .failed failure
    | array hitem expected found found' =>
      rw [Contract.collect_of_failure hstep, Contract.collect_of_failure hstep']
      exact .array hitem expected found found'
    | @answered result result' heq =>
      subst heq
      cases hstop : stop result with
      | true =>
        rw [Contract.collect_of_stop hstep hstop, Contract.collect_of_stop hstep' hstop]
        exact .answered rfl
      | false =>
        rw [Contract.collect_of_next hstep stop hstop, Contract.collect_of_next hstep' stop hstop]
        have hrest := ih (before ++ [item])
        rw [List.append_assoc, List.singleton_append, List.length_append,
          List.length_singleton] at hrest
        exact hrest.map fun _ _ h ↦ congrArg (result :: ·) h

end Demo

namespace Operation

theorem keep_map_left (f : Value → Value) (items results : List Value) :
    keep (items.map f) results = (keep items results).map f := by
  rw [keep, keep, List.zip_map_left, List.filter_map, List.map_map, List.map_map]
  rfl

theorem itemFound_erased (element : Ty) (items : List Value) (position : Int64) :
    itemFound (.array .any (items.map Value.erased)) position =
      (itemFound (.array element items) position).erased := by
  unfold itemFound
  split
  · rfl
  · rw [Value.items?, Value.items?, Option.bind_some, Option.bind_some, List.getElem?_map]
    cases items[position.toUInt64.toNat]? <;> rfl

variable {σ : Type} {op : Operation} {d : Demo} {items : List Value}

theorem answer_sameErased (op : Operation) (items : List Value) (c : Contract)
    (results : List Value) :
    (op.answer (.array .any items) ⟨items, some .any⟩ c results).SameErased
      (op.answer (.array .any (items.map Value.erased)) ⟨items.map Value.erased, some .any⟩ c
        results) := by
  cases op with
  | map | findIndex => rfl
  | filter =>
    rw [answer, answer, keep_map_left]
    exact Value.sameErased_array _ _ _
  | find =>
    rw [answer, answer, itemFound_erased .any]
    exact Value.sameErased_erased _

theorem apply_open_namesAside (h : Host σ) (identity : Nat) (items : List Value)
    (hd : op = .map ∨ d ≠ .inc) (s : σ) :
    NamesAside Value.SameErased items
      (op.apply h.calls (.array .any items) (.function (d.callable identity)) s).1
      (op.apply h.calls (.array .any (items.map Value.erased))
        (.function (d.callable identity)) s).1 := by
  have hf := Demo.contract_eq_ok hd identity
  rw [apply_of_accepts (accepts_open items hf),
    apply_of_accepts (accepts_open (items.map Value.erased) hf)]
  refine (d.collect_namesAside h identity op.stop [] items s).map ?_
  intro results results' heq
  subst heq
  exact answer_sameErased op items (d.contract identity) results

theorem namesAside_of_alike {element : Ty} {x y z : Except Failure Value}
    (h : op.Alike element x y) (hy : NamesAside Value.SameErased items y z) :
    NamesAside Value.SameErased items x z := by
  cases h with
  | failed | answered => exact hy
  | filtered kept =>
    cases hy with
    | answered hsame => exact .answered hsame

theorem alike_open_of_ofJsons (calls : Calls σ) {c : Contract} {f : Callable} {jsons : List Json}
    (hitems : Value.ofJsons false jsons = .ok items)
    (hf : Contract.ofValue op.purpose (.function f) = .ok c)
    (hall : ∀ item ∈ items, item.runtimeType? = some (Value.commonType items))
    (hne : items ≠ []) (s : σ) :
    op.Alike (Value.commonType items)
      (op.apply calls (.array (Value.commonType items) items) (.function f) s).1
      (op.apply calls (.array .any items) (.function f) s).1 := by
  obtain ⟨first, rest, rfl⟩ := List.exists_cons_of_ne_nil hne
  have hfirst := hall first List.mem_cons_self
  obtain ⟨json, hjson⟩ := Value.exists_mem_of_ofJsons hitems List.mem_cons_self
  have hnull : (first :: rest).head? ≠ some .null := by
    intro hhead
    cases hhead
    cases hfirst
  exact (apply_open calls (Value.isInterface_of_ofJson hjson hfirst)
    (Value.assignableTo_commonType _) hf (fun _ _ ↦ .inr hnull) s).1

theorem apply_namesAside (h : Host σ) (op : Operation) (d : Demo) (identity : Nat)
    {jsons : List Json} (hitems : Value.ofJsons false jsons = .ok items) (s : σ) :
    NamesAside Value.SameErased items
      (op.apply h.calls (.array (Value.commonType items) items)
        (.function (d.callable identity)) s).1
      (op.apply h.calls (.array .any (items.map Value.erased))
        (.function (d.callable identity)) s).1 := by
  by_cases hd : op = .map ∨ d ≠ .inc
  · have hopen := apply_open_namesAside h identity items hd s
    rcases Value.commonType_cases items with hany | hall
    · rwa [hany]
    · by_cases hne : items = []
      · subst hne
        exact hopen
      · have hf := Demo.contract_eq_ok hd identity
        exact namesAside_of_alike (alike_open_of_ofJsons h.calls hitems hf hall hne s) hopen
  · have hf := Demo.contract_eq_error hd identity
    have hs := Sequence.ofValue_array (Value.assignableTo_commonType items)
    rw [apply_of_denies (.contract _ hs hf), apply_of_denies (.contract _ rfl hf)]
    exact .failed _

theorem apply_read_namesAside (h : Host σ) (op : Operation) (d : Demo) (identity : Nat)
    {json : Json} {v : Value} (hv : Value.ofJson false json = .ok v) (s : σ) :
    NamesAside Value.SameErased (v.items?.getD [])
      (op.apply h.calls v (.function (d.callable identity)) s).1
      (op.apply h.calls v.erased (.function (d.callable identity)) s).1 := by
  rcases v.erased_eq_or_array with hsame | ⟨element, items, rfl⟩
  · have hrefl (u : Value) : u.SameErased u := rfl
    rw [hsame]
    exact .refl hrefl _
  · obtain ⟨jsons, -, hitems, rfl⟩ := Value.ofJson_eq_array_iff.1 hv
    rw [Value.erased, Value.erasedAll_eq_map]
    exact apply_namesAside h op d identity hitems s

end Operation

namespace CommandLine

/-- What is printed or reported for a document with typed arrays and with untyped ones. Only the
type of an array that is reported as a stray item can be named differently. -/
inductive SeenAlike (a : Application) (json : Json) :
    Except ApplicationError String → Except ApplicationError String → Prop
  | printed (text : String) : SeenAlike a json (.ok text) (.ok text)
  | object (h : json.HasObject) :
      SeenAlike a json (.error (.notConvertible (.unrepresentable "object" "value")))
        (.error (.notConvertible (.unrepresentable "object" "value")))
  | failed {failure failure' : Failure} (hkind : failure.kind = failure'.kind)
      (hindex : failure.index? = failure'.index?)
      (h : failure = failure' ∨ ∃ items index inner, json = .array items ∧
        failure.index? = some index ∧ items[index]? = some (.array inner)) :
      SeenAlike a json (.error (.failed a.op a.func failure))
        (.error (.failed a.op a.func failure'))

theorem exists_render {v : Value} (h : v.Recoverable) (format : OutputFormat) :
    ∃ text, render format v = .ok text := by
  cases format with
  | text => exact ⟨v.text, rfl⟩
  | json =>
    obtain ⟨json, hwrite, -⟩ := h
    exact ⟨json.print, map_eq_ok_iff.2 ⟨json, hwrite, rfl⟩⟩

theorem render_of_sameErased {v w : Value} (h : Value.SameErased v w) (format : OutputFormat) :
    render format v = render format w := by
  rw [← render_erased format v, ← render_erased format w, h]

section Loaded

variable {read : Reading} {a : Application} {demo : Demo} {json : Json} {v : Value}
  (hfunc : Demo.ofName? a.func = some demo) (hdocument : a.document read = .ok json)
include hfunc hdocument

theorem seen_alike_of_object (h : json.HasObject)
    (herror : Value.ofJson false json = .error (.unrepresentable "object" "value")) :
    SeenAlike a json ({ a with untyped := false }.execute read)
      ({ a with untyped := true }.execute read) := by
  have herror' : Value.ofJson true json = .error (.unrepresentable "object" "value") := by
    rw [Value.ofJson_true, herror, Except.map]
  rw [Application.execute_of_unreadable (a := { a with untyped := false }) hfunc hdocument herror,
    Application.execute_of_unreadable (a := { a with untyped := true }) hfunc hdocument herror']
  exact .object h

theorem seen_alike_of_value (hv : Value.ofJson false json = .ok v) :
    SeenAlike a json ({ a with untyped := false }.execute read)
      ({ a with untyped := true }.execute read) := by
  have hv' : Value.ofJson true json = .ok v.erased := by rw [Value.ofJson_true, hv, Except.map]
  have hsame := Operation.apply_read_namesAside Host.alone a.op demo 0 hv 1
  generalize htyped : (a.op.apply Host.alone.calls v (.function (demo.callable 0)) 1).1 = typed
    at hsame
  generalize hopen : (a.op.apply Host.alone.calls v.erased (.function (demo.callable 0)) 1).1 =
    untyped at hsame
  cases hsame with
  | answered h =>
    have hexecute := Application.execute_of_answered (a := { a with untyped := false }) hfunc
      hdocument hv htyped
    have hexecute' := Application.execute_of_answered (a := { a with untyped := true }) hfunc
      hdocument hv' hopen
    have hrecoverable : v.Recoverable :=
      (Value.kept_of_ofJson json (Application.stored_of_document hdocument) hv).recoverable
    obtain ⟨text, htext⟩ := exists_render
      (Operation.apply_recoverable Host.alone demo 0 hrecoverable htyped) a.output
    rw [hexecute, hexecute', ← render_of_sameErased h a.output, htext]
    exact .printed text
  | failed failure =>
    rw [Application.execute_of_failed (a := { a with untyped := false }) hfunc hdocument hv htyped,
      Application.execute_of_failed (a := { a with untyped := true }) hfunc hdocument hv' hopen]
    exact .failed rfl rfl (.inl rfl)
  | @array index element inner hitem expected found found' =>
    rw [Application.execute_of_failed (a := { a with untyped := false }) hfunc hdocument hv htyped,
      Application.execute_of_failed (a := { a with untyped := true }) hfunc hdocument hv' hopen]
    obtain ⟨jsons, inner, hjson, hitem⟩ := Value.exists_array_of_ofJson hv hitem
    exact .failed rfl rfl (.inr ⟨jsons, index, inner, hjson, rfl, hitem⟩)

end Loaded

/-- Leaving a document untyped changes nothing that can be seen, as long as no array is reported as
a stray item. -/
theorem untyped_seen_alike (read : Reading) (a : Application) {demo : Demo} {json : Json}
    (hfunc : Demo.ofName? a.func = some demo) (hdocument : a.document read = .ok json) :
    SeenAlike a json ({ a with untyped := false }.execute read)
      ({ a with untyped := true }.execute read) := by
  rcases Value.ofJson_cases false json with ⟨⟨v, hv⟩, -⟩ | ⟨herror, hobject⟩
  · exact seen_alike_of_value hfunc hdocument hv
  · exact seen_alike_of_object hfunc hdocument hobject herror

def nested : Application :=
  ⟨.map, "inc", ["[1]", "2"], none, false, .json⟩

def nestedDocument : Json :=
  .array [.array [.number (.integer 1)], .number (.integer 2)]

theorem array_named_otherwise :
    Demo.ofName? nested.func = some .inc ∧
      nested.document .empty = .ok nestedDocument ∧
      { nested with untyped := false }.execute .empty =
        .error (.failed .map "inc" (.elementNotAssignable 0 .int "int[]")) ∧
      { nested with untyped := true }.execute .empty =
        .error (.failed .map "inc" (.elementNotAssignable 0 .int "any[]")) ∧
      SeenAlike nested nestedDocument
        (.error (.failed .map "inc" (.elementNotAssignable 0 .int "int[]")))
        (.error (.failed .map "inc" (.elementNotAssignable 0 .int "any[]"))) := by
  have hfunc : Demo.ofName? nested.func = some .inc := rfl
  have hdocument : nested.document .empty = .ok nestedDocument := rfl
  exact ⟨hfunc, hdocument, rfl, rfl, untyped_seen_alike _ nested hfunc hdocument⟩

end CommandLine

end DynSeq
