import DynSeq.Proofs.JsonRoundTrip
import DynSeq.Proofs.StoredDocument

namespace DynSeq

namespace Value

mutual
/-- A value and all that it holds, each array before its items and these from left to right. -/
def parts : Value → List Value
  | .array element items => .array element items :: partsOfAll items
  | v => [v]
def partsOfAll : List Value → List Value
  | [] => []
  | v :: vs => parts v ++ partsOfAll vs
end

mutual
def erased : Value → Value
  | .array _ items => .array .any (erasedAll items)
  | v => v
def erasedAll : List Value → List Value
  | [] => []
  | v :: vs => erased v :: erasedAll vs
end

mutual
/-- The value with the text of every error in its place. -/
def spoken : Value → Value
  | .array element items => .array element (spokenAll items)
  | .error e => .string e.text
  | v => v
def spokenAll : List Value → List Value
  | [] => []
  | v :: vs => spoken v :: spokenAll vs
end

/-- What cannot be written into a document, with the name under which it is reported. -/
inductive Unwritable : Value → String → Prop
  | function (f : Callable) : Unwritable (.function f) ("function " ++ f.name)
  | notANumber {x : Double} (h : x.isNaN = true) : Unwritable (.float x) "NaN"
  | infinity {x : Double} (hx : x.isFinite = false) (hn : x.isNaN = false)
      (hs : x.isNegative = false) : Unwritable (.float x) "inf"
  | negativeInfinity {x : Double} (hx : x.isFinite = false) (hn : x.isNaN = false)
      (hs : x.isNegative = true) : Unwritable (.float x) "-inf"

theorem unwritable_float_iff {x : Double} {name : String} :
    Unwritable (.float x) name ↔ x.isFinite = false ∧ name = Double.plain.text x := by
  constructor
  · intro h
    cases h with
    | notANumber h =>
      have hx : x.isFinite = false := by
        simp only [Double.isNaN, Bool.and_eq_true, Bool.not_eq_true'] at h
        exact h.1
      exact ⟨hx, by simp [Double.Layout.text, h]⟩
    | infinity hx hn hs => exact ⟨hx, by simp [Double.Layout.text, hx, hn, hs]⟩
    | negativeInfinity hx hn hs => exact ⟨hx, by simp [Double.Layout.text, hx, hn, hs]⟩
  · rintro ⟨hx, rfl⟩
    simp only [Double.Layout.text, hx]
    cases hn : x.isNaN with
    | true => exact .notANumber hn
    | false =>
      cases hs : x.isNegative with
      | true => exact .negativeInfinity hx hn hs
      | false => exact .infinity hx hn hs

def fault? : Value → Option ConversionError
  | .float x => if x.isFinite then none else some (.unrepresentable (Double.plain.text x) "JSON")
  | .function f => some (.unrepresentable ("function " ++ f.name) "JSON")
  | _ => none

theorem fault?_eq_some_iff {v : Value} {e : ConversionError} :
    v.fault? = some e ↔ ∃ name, v.Unwritable name ∧ e = .unrepresentable name "JSON" := by
  cases v with
  | float x =>
    cases hx : x.isFinite with
    | true => simp [fault?, hx, unwritable_float_iff]
    | false => simp [fault?, hx, unwritable_float_iff, eq_comm]
  | function f =>
    constructor
    · rintro ⟨⟩
      exact ⟨_, .function f, rfl⟩
    · rintro ⟨name, ⟨⟩, rfl⟩
      rfl
  | _ =>
    constructor
    · nofun
    · rintro ⟨name, ⟨⟩, -⟩

theorem fault?_eq_none_iff {v : Value} : v.fault? = none ↔ ∀ name, ¬ v.Unwritable name := by
  constructor
  · intro h name hname
    have hsome := fault?_eq_some_iff.2 ⟨name, hname, rfl⟩
    rw [h] at hsome
    cases hsome
  · intro h
    cases hf : v.fault? with
    | none => rfl
    | some e =>
      obtain ⟨name, hname, -⟩ := fault?_eq_some_iff.1 hf
      exact absurd hname (h name)

theorem toJson_array_eq_error_iff {element : Ty} {items : List Value} {e : ConversionError} :
    toJson (.array element items) = .error e ↔ toJsons items = .error e := by
  cases h : toJsons items <;> simp [toJson, h, bind, Except.bind, pure, Except.pure]

theorem toJsons_cons_of_error {v : Value} {e : ConversionError} (h : toJson v = .error e)
    (rest : List Value) : toJsons (v :: rest) = .error e := by
  simp [toJsons, h, bind, Except.bind]

theorem toJsons_cons_eq_error_iff {v : Value} {json : Json} (h : toJson v = .ok json)
    {rest : List Value} {e : ConversionError} :
    toJsons (v :: rest) = .error e ↔ toJsons rest = .error e := by
  cases hrest : toJsons rest <;> simp [toJsons, h, hrest, bind, Except.bind, pure, Except.pure]

mutual
theorem toJson_eq_error_iff : ∀ (v : Value) (e : ConversionError),
    toJson v = .error e ↔ v.parts.findSome? fault? = some e
  | .array element items, e => by
    rw [toJson_array_eq_error_iff, toJsons_eq_error_iff items e, parts, List.findSome?_cons]
    rfl
  | .float x, e => by
    cases hx : x.isFinite <;> simp [toJson, parts, fault?, hx]
  | .function f, e => by
    constructor <;>
    · rintro ⟨⟩
      rfl
  | .null, e | .bool _, e | .int _, e | .string _, e | .error _, e => by
    simp [toJson, parts, fault?]
theorem toJsons_eq_error_iff : ∀ (vs : List Value) (e : ConversionError),
    toJsons vs = .error e ↔ (partsOfAll vs).findSome? fault? = some e
  | [], e => by simp [toJsons, partsOfAll]
  | v :: rest, e => by
    rw [partsOfAll, List.findSome?_append]
    cases hv : toJson v with
    | error e' =>
      rw [toJsons_cons_of_error hv, (toJson_eq_error_iff v e').1 hv]
      simp
    | ok json =>
      have hnone : v.parts.findSome? fault? = none := by
        cases hf : v.parts.findSome? fault? with
        | none => rfl
        | some e' =>
          have herror := (toJson_eq_error_iff v e').2 hf
          rw [hv] at herror
          cases herror
      rw [toJsons_cons_eq_error_iff hv, toJsons_eq_error_iff rest e, hnone, Option.none_or]
end

theorem exists_toJson_iff (v : Value) :
    (∃ json, v.toJson = .ok json) ↔ ∀ part ∈ v.parts, ∀ name, ¬ part.Unwritable name := by
  have hnone : (∃ json, v.toJson = .ok json) ↔ v.parts.findSome? fault? = none := by
    cases hf : v.parts.findSome? fault? with
    | none =>
      cases hv : v.toJson with
      | ok json => simp
      | error e =>
        rw [(toJson_eq_error_iff v e).1 hv] at hf
        cases hf
    | some e => simp [(toJson_eq_error_iff v e).2 hf]
  rw [hnone, List.findSome?_eq_none_iff]
  simp only [fault?_eq_none_iff]

theorem toJson_error_iff_first (v : Value) (e : ConversionError) : v.toJson = .error e ↔
    ∃ before part after name, v.parts = before ++ part :: after ∧
      (∀ u ∈ before, ∀ other, ¬ u.Unwritable other) ∧ part.Unwritable name ∧
      e = .unrepresentable name "JSON" := by
  rw [toJson_eq_error_iff, List.findSome?_eq_some_iff]
  constructor
  · rintro ⟨before, part, after, hparts, hpart, hbefore⟩
    obtain ⟨name, hname, he⟩ := fault?_eq_some_iff.1 hpart
    exact ⟨before, part, after, name, hparts,
      fun u hu ↦ fault?_eq_none_iff.1 (hbefore u hu), hname, he⟩
  · rintro ⟨before, part, after, name, hparts, hbefore, hname, he⟩
    exact ⟨before, part, after, hparts, fault?_eq_some_iff.2 ⟨name, hname, he⟩,
      fun u hu ↦ fault?_eq_none_iff.2 (hbefore u hu)⟩

theorem ofNumber_toInt (n : Int64) : ofNumber (.integer n.toInt) = .int n := by
  have hlow : Int64.minValue.toInt ≤ n.toInt := n.le_toInt
  simp only [ofNumber, hlow, n.toInt_le, and_self, if_true, Int64.ofInt_toInt]

theorem erased_ofNumber (n : Json.Number) : (ofNumber n).erased = ofNumber n := by
  cases n with
  | integer n =>
    rw [ofNumber]
    split <;> rfl
  | float x => rfl

mutual
theorem ofJson_true : ∀ json : Json, ofJson true json = (ofJson false json).map erased
  | .array items => by
    cases h : ofJsons false items <;>
      simp [ofJson, ofJsons_true items, h, bind, Except.bind, pure, Except.pure, Except.map, erased]
  | .number n => by simp [ofJson, Except.map, erased_ofNumber]
  | .null | .bool _ | .string _ | .object _ => rfl
theorem ofJsons_true : ∀ items : List Json,
    ofJsons true items = (ofJsons false items).map erasedAll
  | [] => rfl
  | json :: rest => by
    cases hv : ofJson false json <;> cases hvs : ofJsons false rest <;>
      simp [ofJsons, ofJson_true json, ofJsons_true rest, hv, hvs, bind, Except.bind, pure,
        Except.pure, Except.map, erasedAll]
end

mutual
theorem ofJson_of_toJson : ∀ (v : Value) {json : Json}, toJson v = .ok json →
    ofJson true json = .ok v.spoken.erased
  | .null, _, h | .bool _, _, h | .string _, _, h | .error _, _, h => by
    cases h
    rfl
  | .int n, _, h => by
    cases h
    simp [ofJson, ofNumber_toInt, spoken, erased]
  | .float x, _, h => by
    cases hx : x.isFinite <;> simp [toJson, hx] at h
    subst h
    rfl
  | .function f, _, h => by cases h
  | .array element items, _, h => by
    obtain ⟨jsons, hitems, rfl⟩ := toJson_array_eq_ok_iff.1 h
    exact ofJson_array_eq_ok_iff.2 ⟨_, ofJsons_of_toJsons items hitems, rfl⟩
theorem ofJsons_of_toJsons : ∀ (vs : List Value) {jsons : List Json}, toJsons vs = .ok jsons →
    ofJsons true jsons = .ok (erasedAll (spokenAll vs))
  | [], _, h => by
    cases h
    rfl
  | v :: rest, _, h => by
    obtain ⟨json, jsons, hv, hrest, rfl⟩ := toJsons_cons_eq_ok_iff.1 h
    exact ofJsons_cons_eq_ok_iff.2
      ⟨_, _, ofJson_of_toJson v hv, ofJsons_of_toJsons rest hrest, rfl⟩
end

theorem exists_ofJson_of_toJson {v : Value} {json : Json} (h : v.toJson = .ok json) :
    ∃ w, ofJson false json = .ok w ∧ w.erased = v.spoken.erased := by
  have htrue := ofJson_of_toJson v h
  rw [ofJson_true] at htrue
  cases hw : ofJson false json with
  | error e =>
    rw [hw] at htrue
    cases htrue
  | ok w =>
    rw [hw] at htrue
    exact ⟨w, rfl, Except.ok.inj htrue⟩

section Kept

variable {untyped : Bool}

/-- Written into a document and read again, the value is the same. -/
def Kept (untyped : Bool) (v : Value) : Prop :=
  ∃ json, v.toJson = .ok json ∧ ofJson untyped json = .ok v

theorem kept_int (n : Int64) : Kept untyped (.int n) :=
  ⟨.number (.integer n.toInt), rfl, by rw [ofJson, ofNumber_toInt]⟩

theorem kept_float {x : Double} (h : x.isFinite = true) : Kept untyped (.float x) :=
  ⟨.number (.float x), by simp [toJson, h], rfl⟩

theorem kept_ofNumber {n : Json.Number} (h : Json.Stored (.number n)) :
    Kept untyped (ofNumber n) := by
  cases h with
  | @integer n hlow hhigh =>
    rw [ofNumber]
    split
    · exact kept_int _
    · -- Only an integer above those with a sign is left, and it takes 64 bits.
      refine kept_float (Double.isFinite_ofInt ?_)
      have hmin : Int64.minValue.toInt = -9223372036854775808 := rfl
      have hsize : UInt64.size = 18446744073709551616 := rfl
      omega
  | float h => exact kept_float h

mutual
theorem kept_of_ofJson : ∀ (json : Json) {v : Value}, json.Stored → ofJson untyped json = .ok v →
    Kept untyped v
  | .null, _, _, h => by
    cases h
    exact ⟨.null, rfl, rfl⟩
  | .bool b, _, _, h => by
    cases h
    exact ⟨.bool b, rfl, rfl⟩
  | .number n, _, hs, h => by
    cases h
    exact kept_ofNumber hs
  | .string s, _, _, h => by
    cases h
    exact ⟨.string s, rfl, rfl⟩
  | .array items, _, hs, h => by
    obtain ⟨values, hvalues, rfl⟩ := ofJson_array_eq_ok_iff.1 h
    obtain ⟨jsons, hwrite, hread⟩ := kept_of_ofJsons items hs.items hvalues
    exact ⟨.array jsons, toJson_array_eq_ok_iff.2 ⟨jsons, hwrite, rfl⟩,
      ofJson_array_eq_ok_iff.2 ⟨values, hread, rfl⟩⟩
  | .object _, _, _, h => by cases h
theorem kept_of_ofJsons : ∀ (items : List Json) {values : List Value},
    (∀ item ∈ items, item.Stored) → ofJsons untyped items = .ok values →
    ∃ jsons, toJsons values = .ok jsons ∧ ofJsons untyped jsons = .ok values
  | [], _, _, h => by
    cases h
    exact ⟨[], rfl, rfl⟩
  | json :: rest, _, hs, h => by
    obtain ⟨hjson, hrest⟩ := List.forall_mem_cons.1 hs
    obtain ⟨v, vs, hv, hvs, rfl⟩ := ofJsons_cons_eq_ok_iff.1 h
    obtain ⟨json', hwrite, hread⟩ := kept_of_ofJson json hjson hv
    obtain ⟨jsons, hwrites, hreads⟩ := kept_of_ofJsons rest hrest hvs
    exact ⟨json' :: jsons, toJsons_cons_eq_ok_iff.2 ⟨_, _, hwrite, hwrites, rfl⟩,
      ofJsons_cons_eq_ok_iff.2 ⟨_, _, hread, hreads, rfl⟩⟩
end

end Kept

/-- A value can be written unless a part of it cannot, and then the first such part is named. Read
again it is what it was up to declared types and with the texts of its errors; a value that was read
from a document is what it was altogether. -/
theorem written_and_read_again (v : Value) :
    ((∃ json, v.toJson = .ok json) ↔ ∀ part ∈ v.parts, ∀ name, ¬ part.Unwritable name) ∧
    (∀ e, v.toJson = .error e ↔ ∃ before part after name, v.parts = before ++ part :: after ∧
      (∀ u ∈ before, ∀ other, ¬ u.Unwritable other) ∧ part.Unwritable name ∧
      e = .unrepresentable name "JSON") ∧
    (∀ json, v.toJson = .ok json → ofJson true json = .ok v.spoken.erased ∧
      ∃ w, ofJson false json = .ok w ∧ w.erased = v.spoken.erased) ∧
    ∀ (untyped : Bool) (document : Json),
      document.Stored ∨ (∃ text, Json.read text = some document) →
      ofJson untyped document = .ok v → ∃ json, v.toJson = .ok json ∧ ofJson untyped json = .ok v := by
  refine ⟨exists_toJson_iff v, toJson_error_iff_first v, ?_, ?_⟩
  · intro json h
    exact ⟨ofJson_of_toJson v h, exists_ofJson_of_toJson h⟩
  · intro untyped document hdocument h
    rcases hdocument with hstored | ⟨text, hread⟩
    · exact kept_of_ofJson document hstored h
    · exact kept_of_ofJson document (Json.stored_of_read hread) h

def mixedDocument : Json :=
  .array [.number (.integer 18446744073709551615), .array [.number (.integer 1)], .null]

def mixed : Value :=
  .array .any [.float ⟨0x43f0000000000000⟩, .array .int [.int 1], .null]

theorem large_integer_read_again :
    mixedDocument.Stored ∧ ofJson false mixedDocument = .ok mixed ∧
      (∃ json, mixed.toJson = .ok json ∧ ofJson false json = .ok mixed) ∧
      toJson (.array .int [.error (.mk 3 (.message "gone")), .array .bool []]) =
        .ok (.array [.string "gone", .array []]) ∧
      ofJson true (.array [.string "gone", .array []]) =
        .ok (.array .any [.string "gone", .array .any []]) := by
  have hstored : mixedDocument.Stored := by
    refine .array (List.forall_mem_cons.2 ⟨.integer (by decide) (by decide), ?_⟩)
    refine List.forall_mem_cons.2 ⟨.array ?_, List.forall_mem_singleton.2 .null⟩
    exact List.forall_mem_singleton.2 (.integer (by decide) (by decide))
  have hread : ofJson false mixedDocument = .ok mixed := rfl
  have hwritten : toJson (.array .int [.error (.mk 3 (.message "gone")), .array .bool []]) =
    .ok (.array [.string "gone", .array []]) := rfl
  refine ⟨hstored, hread, ?_, hwritten, ?_⟩
  · exact (written_and_read_again mixed).2.2.2 false mixedDocument (.inl hstored) hread
  · exact ((written_and_read_again _).2.2.1 _ hwritten).1

end Value

end DynSeq
