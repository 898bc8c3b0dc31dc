import DynSeq.CommandLine.Apply
import DynSeq.Proofs.Agreement
import DynSeq.Proofs.ValueRoundTrip

namespace DynSeq

namespace Value

theorem texts_eq_map (vs : List Value) : texts vs = vs.map text := by
  induction vs with
  | nil => rfl
  | cons v vs ih => rw [texts, ih, List.map_cons]

theorem erasedAll_eq_map (vs : List Value) : erasedAll vs = vs.map erased := by
  induction vs with
  | nil => rfl
  | cons v vs ih => rw [erasedAll, ih, List.map_cons]

mutual
theorem text_erased : ∀ v : Value, v.erased.text = v.text
  | .array _ items => by rw [erased, text, text, texts_erased items]
  | .null | .bool _ | .int _ | .float _ | .string _ | .function _ | .error _ => rfl
theorem texts_erased : ∀ vs : List Value, texts (erasedAll vs) = texts vs
  | [] => rfl
  | v :: vs => by rw [erasedAll, texts, texts, text_erased v, texts_erased vs]
end

mutual
theorem toJson_erased : ∀ v : Value, v.erased.toJson = v.toJson
  | .array _ items => by rw [erased, toJson, toJson, toJsons_erased items]
  | .null | .bool _ | .int _ | .float _ | .string _ | .function _ | .error _ => rfl
theorem toJsons_erased : ∀ vs : List Value, toJsons (erasedAll vs) = toJsons vs
  | [] => rfl
  | v :: vs => by rw [erasedAll, toJsons, toJsons, toJson_erased v, toJsons_erased vs]
end

end Value

theorem Json.printItems_eq_map (items : List Json) : printItems items = items.map print := by
  induction items with
  | nil => rfl
  | cons item items ih => rw [printItems, ih, List.map_cons]

theorem Json.Number.print_integer (n : Int) : (Number.integer n).print = n.repr := by
  cases n with
  | ofNat n => rfl
  | negSucc n =>
    rw [print, if_pos (Int.negSucc_lt_zero n)]
    rfl

namespace CommandLine

theorem render_erased (format : OutputFormat) (v : Value) :
    render format v.erased = render format v := by
  cases format with
  | text => rw [render, render, v.text_erased]
  | json => rw [render, render, v.toJson_erased]

def listText (format : OutputFormat) (parts : List String) : String :=
  match format with
  | .text => "[" ++ ", ".intercalate parts ++ "]"
  | .json => "[" ++ ",".intercalate parts ++ "]"

section List

variable {α : Type} {xs : List α} {item : α → Value} {part : α → String}

theorem printed_items (h : ∀ x ∈ xs, render .json (item x) = .ok (part x)) :
    ∃ jsons, Value.toJsons (xs.map item) = .ok jsons ∧ jsons.map Json.print = xs.map part := by
  induction xs with
  | nil => exact ⟨[], rfl, rfl⟩
  | cons x rest ih =>
    obtain ⟨hx, hrest⟩ := List.forall_mem_cons.1 h
    obtain ⟨json, hjson, hprint⟩ := map_eq_ok_iff.1 hx
    obtain ⟨jsons, hjsons, hprints⟩ := ih hrest
    refine ⟨json :: jsons, Value.toJsons_cons_eq_ok_iff.2 ⟨_, _, hjson, hjsons, rfl⟩, ?_⟩
    rw [List.map_cons, hprint, hprints, List.map_cons]

theorem render_array {format : OutputFormat} (h : ∀ x ∈ xs, render format (item x) = .ok (part x))
    (element : Ty) :
    render format (.array element (xs.map item)) = .ok (listText format (xs.map part)) := by
  cases format with
  | text =>
    have hparts : (xs.map item).map Value.text = xs.map part := by
      rw [List.map_map]
      refine List.map_congr_left ?_
      intro x hx
      exact Except.ok.inj (h x hx)
    rw [render, Value.text, Value.texts_eq_map, hparts]
    rfl
  | json =>
    obtain ⟨jsons, hjsons, hprints⟩ := printed_items h
    have harray : (Value.array element (xs.map item)).toJson = .ok (.array jsons) :=
      Value.toJson_array_eq_ok_iff.2 ⟨jsons, hjsons, rfl⟩
    rw [render, harray, Except.map, Json.print, Json.printItems_eq_map, hprints]
    rfl

end List

theorem stored_literal (raw : String) : (literal raw).Stored := by
  unfold literal
  cases h : Json.read raw with
  | none => exact .string raw
  | some json => exact Json.stored_of_read h

namespace Application

variable {read : Reading} {a : Application} {demo : Demo} {json : Json} {v : Value}

theorem stored_of_document (h : a.document read = .ok json) : json.Stored := by
  unfold document at h
  split at h
  · cases h
    refine .array ?_
    intro item hitem
    obtain ⟨raw, -, rfl⟩ := List.mem_map.1 hitem
    exact stored_literal raw
  · split at h
    · cases h
    · split at h
      · rename_i htext
        cases h
        exact Json.stored_of_read htext
      · cases h

theorem input_of_document (h : a.document read = .ok json) :
    a.input read = (Value.ofJson a.untyped json).mapError .notConvertible := by
  rw [input, h]
  rfl

theorem execute_of_unreadable {e : ConversionError} (hfunc : Demo.ofName? a.func = some demo)
    (h : a.document read = .ok json) (hv : Value.ofJson a.untyped json = .error e) :
    a.execute read = .error (.notConvertible e) := by
  have hinput : a.input read = .error (.notConvertible e) := by
    rw [input_of_document h, hv]
    rfl
  rw [execute, result, hfunc]
  simp only [hinput]
  rfl

section Applied

variable (hfunc : Demo.ofName? a.func = some demo) (hdocument : a.document read = .ok json)
  (hv : Value.ofJson a.untyped json = .ok v)
include hfunc hdocument hv

theorem result_eq : a.result read =
    (a.op.apply Host.alone.calls v (.function (demo.callable 0)) 1).1.mapError
      (.failed a.op a.func) := by
  have hinput : a.input read = .ok v := by
    rw [input_of_document hdocument, hv]
    rfl
  rw [result, hfunc]
  simp only [hinput]
  rfl

theorem execute_of_failed {failure : Failure}
    (h : (a.op.apply Host.alone.calls v (.function (demo.callable 0)) 1).1 = .error failure) :
    a.execute read = .error (.failed a.op a.func failure) := by
  rw [execute, result_eq hfunc hdocument hv, h]
  rfl

theorem execute_of_answered {answered : Value}
    (h : (a.op.apply Host.alone.calls v (.function (demo.callable 0)) 1).1 = .ok answered) :
    a.execute read = (render a.output answered).mapError .notPrintable := by
  rw [execute, result_eq hfunc hdocument hv, h]
  rfl

end Applied

end Application

end CommandLine

end DynSeq
