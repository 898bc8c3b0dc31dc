import DynSeq.Value.Json

namespace DynSeq

/-- A document that the values can hold: no objects at any depth, and every number an integer of 64
bits with a sign, or finite. -/
inductive Json.Representable : Json → Prop
  | null : Representable .null
  | bool (b : Bool) : Representable (.bool b)
  | integer {n : Int} (hlow : Int64.minValue.toInt ≤ n) (hhigh : n ≤ Int64.maxValue.toInt) :
      Representable (.number (.integer n))
  | float {x : Double} (h : x.isFinite = true) : Representable (.number (.float x))
  | string (s : String) : Representable (.string s)
  | array {items : List Json} (h : ∀ item ∈ items, Representable item) :
      Representable (.array items)

theorem Json.representable_array_iff {items : List Json} :
    Representable (.array items) ↔ ∀ item ∈ items, Representable item := by
  constructor
  · intro h
    cases h with
    | array h => exact h
  · exact .array

theorem Json.not_representable_object (members : List (String × Json)) :
    ¬ Representable (.object members) :=
  nofun

namespace Value

variable {untyped : Bool}

theorem ofJson_array_eq_ok_iff {items : List Json} {v : Value} :
    ofJson untyped (.array items) = .ok v ↔ ∃ values, ofJsons untyped items = .ok values ∧
      v = .array (if untyped then .any else commonType values) values := by
  cases h : ofJsons untyped items <;>
    simp [ofJson, h, bind, Except.bind, pure, Except.pure, eq_comm]

theorem ofJsons_cons_eq_ok_iff {json : Json} {rest : List Json} {values : List Value} :
    ofJsons untyped (json :: rest) = .ok values ↔ ∃ v vs, ofJson untyped json = .ok v ∧
      ofJsons untyped rest = .ok vs ∧ values = v :: vs := by
  cases hv : ofJson untyped json <;> cases hvs : ofJsons untyped rest <;>
    simp [ofJsons, hv, hvs, bind, Except.bind, pure, Except.pure, eq_comm]

theorem toJson_array_eq_ok_iff {element : Ty} {values : List Value} {json : Json} :
    toJson (.array element values) = .ok json ↔
      ∃ items, toJsons values = .ok items ∧ json = .array items := by
  cases h : toJsons values <;>
    simp [toJson, h, bind, Except.bind, pure, Except.pure, eq_comm]

theorem toJsons_cons_eq_ok_iff {v : Value} {rest : List Value} {items : List Json} :
    toJsons (v :: rest) = .ok items ↔ ∃ json jsons, toJson v = .ok json ∧
      toJsons rest = .ok jsons ∧ items = json :: jsons := by
  cases hj : toJson v <;> cases hjs : toJsons rest <;>
    simp [toJsons, hj, hjs, bind, Except.bind, pure, Except.pure, eq_comm]

/-- Read as a value and written again, the document is what it was. -/
def Survives (untyped : Bool) (json : Json) : Prop :=
  ∃ v, ofJson untyped json = .ok v ∧ toJson v = .ok json

theorem survives_array_iff {items : List Json} : Survives untyped (.array items) ↔
    ∃ values, ofJsons untyped items = .ok values ∧ toJsons values = .ok items := by
  constructor
  · rintro ⟨v, hread, hwrite⟩
    obtain ⟨values, hvalues, rfl⟩ := ofJson_array_eq_ok_iff.1 hread
    obtain ⟨items', hitems, h⟩ := toJson_array_eq_ok_iff.1 hwrite
    cases h
    exact ⟨values, hvalues, hitems⟩
  · rintro ⟨values, hread, hwrite⟩
    exact ⟨_, ofJson_array_eq_ok_iff.2 ⟨values, hread, rfl⟩,
      toJson_array_eq_ok_iff.2 ⟨items, hwrite, rfl⟩⟩

theorem survives_number_iff (n : Json.Number) :
    Survives untyped (.number n) ↔ Json.Representable (.number n) := by
  cases n with
  | integer n =>
    by_cases h : Int64.minValue.toInt ≤ n ∧ n ≤ Int64.maxValue.toInt
    · refine iff_of_true ⟨.int (Int64.ofInt n), ?_, ?_⟩ (.integer h.1 h.2)
      · simp only [ofJson, ofNumber, h, and_self, if_true]
      · have hn : (Int64.ofInt n).toInt = n :=
          Int64.toInt_ofInt_of_le h.1 (Int.lt_add_one_iff.2 h.2)
        rw [toJson, hn]
    · refine iff_of_false ?_ ?_
      · rintro ⟨v, hread, hwrite⟩
        simp only [ofJson, ofNumber, h, if_false, Except.ok.injEq] at hread
        subst hread
        simp only [toJson] at hwrite
        split at hwrite <;> cases hwrite
      · intro hrep
        cases hrep with
        | integer hlow hhigh => exact h ⟨hlow, hhigh⟩
  | float x =>
    cases hx : x.isFinite with
    | true => exact iff_of_true ⟨.float x, rfl, by simp [toJson, hx]⟩ (.float hx)
    | false =>
      refine iff_of_false ?_ ?_
      · rintro ⟨v, hread, hwrite⟩
        cases hread
        simp [ofNumber, toJson, hx] at hwrite
      · intro hrep
        cases hrep with
        | float h => simp [hx] at h

mutual
theorem survives_iff : ∀ json : Json, Survives untyped json ↔ json.Representable
  | .null => iff_of_true ⟨.null, rfl, rfl⟩ .null
  | .bool b => iff_of_true ⟨.bool b, rfl, rfl⟩ (.bool b)
  | .number n => survives_number_iff n
  | .string s => iff_of_true ⟨.string s, rfl, rfl⟩ (.string s)
  | .array items => by rw [survives_array_iff, survives_all_iff items, Json.representable_array_iff]
  | .object members => by
    refine iff_of_false ?_ (Json.not_representable_object members)
    rintro ⟨v, hread, -⟩
    cases hread
theorem survives_all_iff : ∀ items : List Json,
    (∃ values, ofJsons untyped items = .ok values ∧ toJsons values = .ok items) ↔
      ∀ item ∈ items, item.Representable
  | [] => iff_of_true ⟨[], rfl, rfl⟩ nofun
  | json :: rest => by
    rw [List.forall_mem_cons, ← survives_iff json, ← survives_all_iff rest]
    constructor
    · rintro ⟨values, hread, hwrite⟩
      obtain ⟨v, vs, hv, hvs, rfl⟩ := ofJsons_cons_eq_ok_iff.1 hread
      obtain ⟨j, js, hj, hjs, h⟩ := toJsons_cons_eq_ok_iff.1 hwrite
      cases h
      exact ⟨⟨v, hv, hj⟩, vs, hvs, hjs⟩
    · rintro ⟨⟨v, hv, hj⟩, vs, hvs, hjs⟩
      exact ⟨v :: vs, ofJsons_cons_eq_ok_iff.2 ⟨v, vs, hv, hvs, rfl⟩,
        toJsons_cons_eq_ok_iff.2 ⟨json, rest, hj, hjs, rfl⟩⟩
end

/-- The documents that come back from the values unchanged are those that the values can hold,
whether arrays are typed or left untyped. -/
theorem toJson_ofJson_iff_representable (untyped : Bool) (json : Json) :
    (∃ v, ofJson untyped json = .ok v ∧ toJson v = .ok json) ↔ json.Representable :=
  survives_iff json

end Value

end DynSeq
