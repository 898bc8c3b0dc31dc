import DynSeq.Proofs.DecimalText
import DynSeq.Proofs.DemoRun
import DynSeq.Proofs.Execution
import DynSeq.Proofs.LoadedDocument
import DynSeq.Proofs.NotFound
import DynSeq.Proofs.OpenArray

namespace DynSeq

namespace Operation

section Mapped

variable {α : Type} (item result : α → Value) (xs : List α)

theorem itemFound_map (element : Ty) (h : ∀ i : Nat,
    (xs.findIdx? fun x ↦ (result x).isTruthy) = some i → i ≤ Int64.maxValue.toInt) :
    itemFound (.array element (xs.map item)) (firstTruthy (xs.map result)) =
      ((xs.find? fun x ↦ (result x).isTruthy).map item).getD .null := by
  rw [firstTruthy_map, List.find?_eq_bind_findIdx?_getElem?]
  cases hi : xs.findIdx? fun x ↦ (result x).isTruthy with
  | none => rfl
  | some i =>
    obtain ⟨hlt, -⟩ := List.findIdx?_eq_some_iff_getElem.1 hi
    obtain ⟨-, hposition, hfound⟩ := position_kept (h i hi)
    have hitem : xs[i]? = some xs[i] := List.getElem?_eq_getElem hlt
    rw [Option.map_some, Option.getD_some, Option.bind_some, hitem]
    refine itemFound_of_getElem hfound ?_
    rw [hposition, Value.items?, Option.getD_some, List.getElem?_map, hitem]
    rfl

end Mapped

section Integers

variable {σ : Type} {op : Operation} {d : Demo} {element : Ty}

theorem ofValue_integers (xs : List Int64) (h : element = .any ∨ element = .int) :
    Sequence.ofValue (.array element (xs.map .int)) = .ok ⟨xs.map .int, some element⟩ := by
  refine Sequence.ofValue_array ?_
  intro item hitem
  obtain ⟨n, -, rfl⟩ := List.mem_map.1 hitem
  rcases h with rfl | rfl <;> rfl

theorem passing_integers (d : Demo) (identity : Nat) (xs : List Int64)
    (h : element = .any ∨ element = .int) :
    ∃ p, Passing.choose ⟨xs.map .int, some element⟩ (d.contract identity).param = .ok p ∧
      ∀ index n, (p.arguments index (.int n)).map d.result = .ok (d.result [.int n]) := by
  cases d with
  | never => exact ⟨.nothing, rfl, fun _ _ ↦ rfl⟩
  | inc | odd =>
    rcases h with rfl | rfl
    · exact ⟨.checked .int, rfl, fun _ _ ↦ rfl⟩
    · refine ⟨.each, ?_, fun _ _ ↦ rfl⟩
      have hassign : Ty.int.assignableTo .int = true := Ty.assignableTo_refl .int
      simp [Demo.contract, Demo.signature, Passing.choose, Sequence.static?_eq, Ty.isInterface,
        hassign]

theorem apply_integers (h : Host σ) (identity : Nat) (xs : List Int64) (s : σ)
    (hd : op = .map ∨ d ≠ .inc) (helement : element = .any ∨ element = .int) :
    (op.apply h.calls (.array element (xs.map .int)) (.function (d.callable identity)) s).1 =
      .ok (op.answer (.array element (xs.map .int)) ⟨xs.map .int, some element⟩
        (d.contract identity) (xs.map fun n ↦ d.result [.int n])) := by
  obtain ⟨p, hp, hargs⟩ := passing_integers d identity xs helement
  have hsteps : ∀ item ∈ xs.map Value.int, ∀ index t,
      (Contract.step h.calls (d.contract identity) p index item t).1 = .ok (d.result [item]) := by
    intro item hitem index t
    obtain ⟨n, -, rfl⟩ := List.mem_map.1 hitem
    rw [d.step_eq, hargs]
  refine answer_of_never ⟨ofValue_integers xs helement, Demo.contract_eq_ok hd identity, hp⟩ ?_
  rw [Contract.collect_of_steps hsteps, List.map_map]
  rfl

theorem apply_inc_integers (calls : Calls σ) (identity : Nat) (xs : List Int64) (s : σ)
    (hop : op ≠ .map) (helement : element = .any ∨ element = .int) :
    (op.apply calls (.array element (xs.map .int)) (.function (Demo.inc.callable identity)) s).1 =
      .error (.firstReturnNotBool .int) := by
  have hd : ¬ (op = .map ∨ Demo.inc ≠ .inc) := by simp [hop]
  rw [apply_of_denies
    (.contract _ (ofValue_integers xs helement) (Demo.contract_eq_error hd identity))]

end Integers

end Operation

namespace CommandLine

def decimal (n : Int64) : String :=
  n.toInt.repr

def boolText (b : Bool) : String :=
  if b then "true" else "false"

def successor (n : Int64) : Int :=
  if n.toInt = Int64.maxValue.toInt then Int64.minValue.toInt else n.toInt + 1

/-- The remainder has the sign of the number. -/
def isOdd (n : Int64) : Bool :=
  n.toInt.tmod 2 == 1

/-- A demo function applied to integers, which are given by their decimal texts. -/
def overIntegers (op : Operation) (d : Demo) (xs : List Int64) (untyped : Bool)
    (format : OutputFormat) : Application :=
  ⟨op, d.name, xs.map decimal, none, untyped, format⟩

theorem literal_decimal (n : Int64) : literal (decimal n) = .number (.integer n.toInt) := by
  have hlow : Int64.minValue.toInt ≤ n.toInt := n.le_toInt
  have hhigh : n.toInt < UInt64.size := by
    have h := n.toInt_lt
    have hsize : UInt64.size = 18446744073709551616 := rfl
    omega
  rw [literal, decimal, Json.read_repr hlow hhigh, Option.getD_some]

theorem ofJsons_decimals (untyped : Bool) (xs : List Int64) :
    Value.ofJsons untyped ((xs.map decimal).map literal) = .ok (xs.map .int) := by
  induction xs with
  | nil => rfl
  | cons n xs ih =>
    refine Value.ofJsons_cons_eq_ok_iff.2 ⟨.int n, _, ?_, ih, rfl⟩
    rw [literal_decimal, Value.ofJson, Value.ofNumber_toInt]

theorem commonType_integers (xs : List Int64) :
    Value.commonType (xs.map .int) = .any ∨ Value.commonType (xs.map .int) = .int := by
  rcases Value.commonType_cases (xs.map .int) with h | h
  · exact .inl h
  · cases xs with
    | nil => exact .inl rfl
    | cons n xs =>
      have hfirst := h (.int n) List.mem_cons_self
      exact .inr (Option.some.inj hfirst).symm

theorem input_decimals (untyped : Bool) (xs : List Int64) : ∃ element,
    (element = .any ∨ element = .int) ∧
      Value.ofJson untyped (.array ((xs.map decimal).map literal)) =
        .ok (.array element (xs.map .int)) := by
  have hitems := ofJsons_decimals untyped xs
  refine ⟨_, ?_, Value.ofJson_array_eq_ok_iff.2 ⟨_, hitems, rfl⟩⟩
  cases untyped with
  | true => exact .inl rfl
  | false => exact commonType_integers xs

theorem render_int (format : OutputFormat) (n : Int64) :
    render format (.int n) = .ok (decimal n) := by
  cases format with
  | text => rfl
  | json =>
    rw [render, Value.toJson, Except.map, Json.print, Json.Number.print_integer]
    rfl

theorem render_bool (format : OutputFormat) (b : Bool) :
    render format (.bool b) = .ok (boolText b) := by
  cases format <;> rfl

theorem render_null (format : OutputFormat) : render format .null = .ok "null" := by
  cases format <;> rfl

theorem toInt_add_one (n : Int64) : (n + 1).toInt = successor n := by
  have hlow := n.le_toInt
  have hhigh := n.toInt_lt
  have hone : (1 : Int64).toInt = 1 := rfl
  have hmax : Int64.maxValue.toInt = 9223372036854775807 := rfl
  have hmin : Int64.minValue.toInt = -9223372036854775808 := rfl
  rw [Int64.toInt_add, hone, successor, Int.bmod_eq_emod, hmax, hmin]
  split <;> split <;> omega

theorem mod_two_eq_isOdd (n : Int64) : (n % 2 == 1) = isOdd n :=
  Demo.mod_two_eq n

section Executed

variable (read : Reading) (xs : List Int64) (untyped : Bool) (format : OutputFormat)
  {d : Demo}

theorem execute_integers (op : Operation) (hd : op = .map ∨ d ≠ .inc) : ∃ element,
    (overIntegers op d xs untyped format).execute read =
      (render format (op.answer (.array element (xs.map .int)) ⟨xs.map .int, some element⟩
        (d.contract 0) (xs.map fun n ↦ d.result [.int n]))).mapError .notPrintable := by
  obtain ⟨element, helement, hinput⟩ := input_decimals untyped xs
  have hanswer := Operation.apply_integers Host.alone 0 xs 1 hd helement
  exact ⟨element, Application.execute_of_answered d.ofName?_name rfl hinput hanswer⟩

theorem execute_inc_integers {op : Operation} (hop : op ≠ .map) :
    (overIntegers op .inc xs untyped format).execute read =
      .error (.failed op "inc" (.firstReturnNotBool .int)) := by
  obtain ⟨element, helement, hinput⟩ := input_decimals untyped xs
  have hfailed := Operation.apply_inc_integers Host.alone.calls 0 xs 1 hop helement
  exact Application.execute_of_failed Demo.inc.ofName?_name rfl hinput hfailed

theorem execute_map (d : Demo) {part : Int64 → String}
    (h : ∀ n, render format (d.result [.int n]) = .ok (part n)) :
    (overIntegers .map d xs untyped format).execute read = .ok (listText format (xs.map part)) := by
  obtain ⟨element, hexecute⟩ := execute_integers read xs untyped format (d := d) .map (.inl rfl)
  rw [hexecute, Operation.answer, Operation.label, render_array fun n _ ↦ h n]
  rfl

variable {test : Int64 → Bool} (hd : d ≠ .inc) (h : ∀ n, (d.result [.int n]).isTruthy = test n)
include hd h

theorem execute_filter : (overIntegers .filter d xs untyped format).execute read =
    .ok (listText format ((xs.filter test).map decimal)) := by
  obtain ⟨element, hexecute⟩ := execute_integers read xs untyped format .filter (.inr hd)
  rw [hexecute, Operation.answer, Operation.keep_map]
  simp only [h]
  rw [render_array fun n _ ↦ render_int format n]
  rfl

variable (hposition : ∀ i : Nat, xs.findIdx? test = some i → i ≤ Int64.maxValue.toInt)
include hposition

theorem execute_find : (overIntegers .find d xs untyped format).execute read =
    .ok (((xs.find? test).map decimal).getD "null") := by
  obtain ⟨element, hexecute⟩ := execute_integers read xs untyped format .find (.inr hd)
  have hfound := Operation.itemFound_map .int (fun n ↦ d.result [.int n]) xs element
    (by simpa only [h] using hposition)
  rw [hexecute, Operation.answer, hfound]
  simp only [h]
  cases xs.find? test with
  | none => rw [Option.map_none, Option.getD_none, render_null]; rfl
  | some n => rw [Option.map_some, Option.getD_some, render_int]; rfl

theorem execute_findIndex : (overIntegers .findIndex d xs untyped format).execute read =
    .ok (((xs.findIdx? test).map Nat.repr).getD "-1") := by
  obtain ⟨element, hexecute⟩ :=
    execute_integers read xs untyped format .findIndex (.inr hd)
  rw [hexecute, Operation.answer, Operation.firstTruthy_map, render_int]
  simp only [h]
  cases hi : xs.findIdx? test with
  | none => rfl
  | some i =>
    obtain ⟨htoInt, -⟩ := Operation.position_kept (hposition i hi)
    rw [Option.map_some, Option.getD_some, decimal, htoInt]
    rfl

end Executed

theorem isTruthy_odd (n : Int64) : (Demo.odd.result [.int n]).isTruthy = isOdd n := by
  rw [← mod_two_eq_isOdd]
  cases h : n % 2 == 1 <;> simp [Demo.result, Demo.run, h, Value.isTruthy]

theorem position_le {xs : List Int64} (h : xs.length ≤ Int64.maxValue.toInt) (test : Int64 → Bool) :
    ∀ i : Nat, xs.findIdx? test = some i → i ≤ Int64.maxValue.toInt := by
  intro i hi
  obtain ⟨hlt, -⟩ := List.findIdx?_eq_some_iff_getElem.1 hi
  omega

/-- What the program prints for a list of integers. A position is an integer of 64 bits, and no list
in memory is longer than these can say. -/
structure ExactOver (read : Reading) (xs : List Int64) (untyped : Bool) (format : OutputFormat) :
    Prop where
  map_inc : (overIntegers .map .inc xs untyped format).execute read =
    .ok (listText format (xs.map fun n ↦ (successor n).repr))
  map_odd : (overIntegers .map .odd xs untyped format).execute read =
    .ok (listText format (xs.map fun n ↦ boolText (isOdd n)))
  map_false : (overIntegers .map .never xs untyped format).execute read =
    .ok (listText format (xs.map fun _ ↦ "false"))
  filter_odd : (overIntegers .filter .odd xs untyped format).execute read =
    .ok (listText format ((xs.filter isOdd).map decimal))
  find_odd : xs.length ≤ Int64.maxValue.toInt →
    (overIntegers .find .odd xs untyped format).execute read =
      .ok (((xs.find? isOdd).map decimal).getD "null")
  findIndex_odd : xs.length ≤ Int64.maxValue.toInt →
    (overIntegers .findIndex .odd xs untyped format).execute read =
      .ok (((xs.findIdx? isOdd).map Nat.repr).getD "-1")
  filter_false : (overIntegers .filter .never xs untyped format).execute read = .ok "[]"
  find_false : (overIntegers .find .never xs untyped format).execute read = .ok "null"
  findIndex_false : (overIntegers .findIndex .never xs untyped format).execute read = .ok "-1"
  inc_fails : ∀ op ≠ .map, (overIntegers op .inc xs untyped format).execute read =
    .error (.failed op "inc" (.firstReturnNotBool .int))

/-- Over integers that are given by their decimal texts, typed or untyped, the program prints
exactly the successors, the parities, what is odd and where the first such number is. -/
theorem exact_over_integers (read : Reading) (xs : List Int64) (untyped : Bool)
    (format : OutputFormat) : ExactOver read xs untyped format := by
  have hpredicate : Demo.never ≠ .inc := nofun
  have hfalse (n : Int64) : (Demo.never.result [.int n]).isTruthy = false := rfl
  have hnothing : xs.findIdx? (fun _ ↦ false) = none := List.findIdx?_eq_none_iff.2 fun _ _ ↦ rfl
  have hnever : ∀ i : Nat, xs.findIdx? (fun _ ↦ false) = some i → i ≤ Int64.maxValue.toInt := by
    rw [hnothing]
    nofun
  constructor
  case map_inc =>
    refine execute_map read xs untyped format .inc ?_
    intro n
    rw [← toInt_add_one]
    exact render_int format (n + 1)
  case map_odd =>
    refine execute_map read xs untyped format .odd ?_
    intro n
    rw [← mod_two_eq_isOdd]
    exact render_bool format (n % 2 == 1)
  case map_false =>
    refine execute_map read xs untyped format .never ?_
    intro n
    exact render_bool format false
  case filter_odd => exact execute_filter read xs untyped format nofun isTruthy_odd
  case find_odd =>
    intro h
    exact execute_find read xs untyped format nofun isTruthy_odd (position_le h isOdd)
  case findIndex_odd =>
    intro h
    exact execute_findIndex read xs untyped format nofun isTruthy_odd (position_le h isOdd)
  case filter_false =>
    have hkept : xs.filter (fun _ ↦ false) = [] := List.filter_eq_nil_iff.2 (by simp)
    rw [execute_filter read xs untyped format hpredicate hfalse, hkept]
    cases format <;> rfl
  case find_false =>
    have hfound : xs.find? (fun _ ↦ false) = none := List.find?_eq_none.2 (by simp)
    rw [execute_find read xs untyped format hpredicate hfalse hnever, hfound]
    rfl
  case findIndex_false =>
    rw [execute_findIndex read xs untyped format hpredicate hfalse hnever, hnothing]
    rfl
  case inc_fails =>
    intro op hop
    exact execute_inc_integers read xs untyped format hop

theorem printed_at_both_ends :
    [-3, Int64.minValue, Int64.maxValue].length ≤ Int64.maxValue.toInt ∧
      (overIntegers .findIndex .odd [-3, Int64.minValue, Int64.maxValue] false .json).execute
        .empty = .ok "2" ∧
      (overIntegers .map .inc [-3, Int64.minValue, Int64.maxValue] true .text).execute
        .empty = .ok "[-2, -9223372036854775807, -9223372036854775808]" := by
  have hlength : [-3, Int64.minValue, Int64.maxValue].length ≤ Int64.maxValue.toInt := by decide
  exact ⟨hlength, (exact_over_integers _ _ false .json).findIndex_odd hlength,
    (exact_over_integers _ _ true .text).map_inc⟩

end CommandLine

end DynSeq
