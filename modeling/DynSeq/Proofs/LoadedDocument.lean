import DynSeq.Proofs.ValueRoundTrip

namespace DynSeq

inductive Json.HasObject : Json → Prop
  | object (members : List (String × Json)) : HasObject (.object members)
  | item {items : List Json} {item : Json} (hi : item ∈ items) (h : HasObject item) :
      HasObject (.array items)

theorem Json.hasObject_array_iff {items : List Json} :
    HasObject (.array items) ↔ ∃ item ∈ items, item.HasObject := by
  constructor
  · intro h
    cases h with
    | item hi h => exact ⟨_, hi, h⟩
  · intro h
    obtain ⟨item, hi, h⟩ := h
    exact .item hi h

namespace Value

section Reading

variable {untyped : Bool} {e : ConversionError}

theorem ofJson_array_eq_error_iff {items : List Json} :
    ofJson untyped (.array items) = .error e ↔ ofJsons untyped items = .error e := by
  cases h : ofJsons untyped items <;> simp [ofJson, h, bind, Except.bind, pure, Except.pure]

theorem ofJsons_cons_eq_error_iff {json : Json} {rest : List Json} :
    ofJsons untyped (json :: rest) = .error e ↔ ofJson untyped json = .error e ∨
      (∃ v, ofJson untyped json = .ok v) ∧ ofJsons untyped rest = .error e := by
  cases hv : ofJson untyped json <;> cases hvs : ofJsons untyped rest <;>
    simp [ofJsons, hv, hvs, bind, Except.bind, pure, Except.pure]

mutual
theorem ofJson_cases (untyped : Bool) : ∀ json : Json,
    (∃ v, ofJson untyped json = .ok v) ∧ ¬ json.HasObject ∨
      ofJson untyped json = .error (.unrepresentable "object" "value") ∧ json.HasObject
  | .null => .inl ⟨⟨.null, rfl⟩, nofun⟩
  | .bool b => .inl ⟨⟨.bool b, rfl⟩, nofun⟩
  | .number n => .inl ⟨⟨ofNumber n, rfl⟩, nofun⟩
  | .string s => .inl ⟨⟨.string s, rfl⟩, nofun⟩
  | .object members => .inr ⟨rfl, .object members⟩
  | .array items => by
    rw [Json.hasObject_array_iff]
    rcases ofJsons_cases untyped items with ⟨⟨values, hvalues⟩, hnone⟩ | ⟨herror, hsome⟩
    · exact .inl ⟨⟨_, ofJson_array_eq_ok_iff.2 ⟨values, hvalues, rfl⟩⟩, hnone⟩
    · exact .inr ⟨ofJson_array_eq_error_iff.2 herror, hsome⟩
theorem ofJsons_cases (untyped : Bool) : ∀ items : List Json,
    (∃ values, ofJsons untyped items = .ok values) ∧ ¬ (∃ item ∈ items, item.HasObject) ∨
      ofJsons untyped items = .error (.unrepresentable "object" "value") ∧
        ∃ item ∈ items, item.HasObject
  | [] => .inl ⟨⟨[], rfl⟩, by simp⟩
  | json :: rest => by
    simp only [List.mem_cons, exists_eq_or_imp]
    rcases ofJson_cases untyped json with ⟨⟨v, hv⟩, hjson⟩ | ⟨herror, hjson⟩
    · rcases ofJsons_cases untyped rest with ⟨⟨vs, hvs⟩, hrest⟩ | ⟨herror, hrest⟩
      · exact .inl ⟨⟨_, ofJsons_cons_eq_ok_iff.2 ⟨v, vs, hv, hvs, rfl⟩⟩, not_or.2 ⟨hjson, hrest⟩⟩
      · exact .inr ⟨ofJsons_cons_eq_error_iff.2 (.inr ⟨⟨v, hv⟩, herror⟩), .inr hrest⟩
    · exact .inr ⟨ofJsons_cons_eq_error_iff.2 (.inl herror), .inl hjson⟩
end

theorem exists_getElem?_of_ofJsons {jsons : List Json} {values : List Value}
    (h : ofJsons untyped jsons = .ok values) {i : Nat} {v : Value} (hv : values[i]? = some v) :
    ∃ json, jsons[i]? = some json ∧ ofJson untyped json = .ok v := by
  induction jsons generalizing values i with
  | nil =>
    cases h
    cases hv
  | cons json jsons ih =>
    obtain ⟨first, rest, hfirst, hrest, rfl⟩ := ofJsons_cons_eq_ok_iff.1 h
    cases i with
    | zero =>
      cases hv
      exact ⟨json, rfl, hfirst⟩
    | succ i => exact ih hrest hv

theorem exists_mem_of_ofJsons {jsons : List Json} {values : List Value}
    (h : ofJsons untyped jsons = .ok values) {v : Value} (hv : v ∈ values) :
    ∃ json, ofJson untyped json = .ok v := by
  obtain ⟨i, hi⟩ := List.mem_iff_getElem?.1 hv
  obtain ⟨json, -, hjson⟩ := exists_getElem?_of_ofJsons h hi
  exact ⟨json, hjson⟩

theorem ofJson_eq_array_iff {json : Json} {element : Ty} {items : List Value} :
    ofJson untyped json = .ok (.array element items) ↔ ∃ jsons, json = .array jsons ∧
      ofJsons untyped jsons = .ok items ∧ element = if untyped then .any else commonType items := by
  constructor
  · intro h
    cases json with
    | array jsons =>
      obtain ⟨values, hvalues, heq⟩ := ofJson_array_eq_ok_iff.1 h
      cases heq
      exact ⟨jsons, rfl, hvalues, rfl⟩
    | number n =>
      have hn : ofNumber n = .array element items := Except.ok.inj h
      unfold ofNumber at hn
      split at hn
      · split at hn <;> cases hn
      · cases hn
    | null | bool b | string s | object members => cases h
  · intro h
    obtain ⟨jsons, rfl, hvalues, rfl⟩ := h
    exact ofJson_array_eq_ok_iff.2 ⟨items, hvalues, rfl⟩

theorem exists_array_of_ofJson {json : Json} {v : Value} (h : ofJson untyped json = .ok v)
    {index : Nat} {element : Ty} {inner : List Value}
    (hitem : (v.items?.getD [])[index]? = some (.array element inner)) :
    ∃ jsons inner, json = .array jsons ∧ jsons[index]? = some (.array inner) := by
  cases v with
  | array declared items =>
    obtain ⟨jsons, rfl, hitems, -⟩ := ofJson_eq_array_iff.1 h
    obtain ⟨json, hjson, hread⟩ := exists_getElem?_of_ofJsons hitems hitem
    obtain ⟨inner, rfl, -⟩ := ofJson_eq_array_iff.1 hread
    exact ⟨jsons, inner, rfl, hjson⟩
  | _ => cases hitem

theorem isInterface_of_ofJson {json : Json} {v : Value} (h : ofJson untyped json = .ok v) {t : Ty}
    (ht : v.runtimeType? = some t) : t.isInterface = false := by
  cases json with
  | null =>
    cases h
    cases ht
  | number n =>
    cases h
    unfold ofNumber at ht
    split at ht
    · split at ht <;> cases ht <;> rfl
    · cases ht
      rfl
  | array items =>
    obtain ⟨values, -, rfl⟩ := ofJson_array_eq_ok_iff.1 h
    cases ht
    rfl
  | bool b | string s =>
    cases h
    cases ht
    rfl
  | object members => cases h

end Reading

theorem commonType_cases (vs : List Value) :
    commonType vs = .any ∨ ∀ v ∈ vs, v.runtimeType? = some (commonType vs) := by
  cases vs with
  | nil => exact .inl rfl
  | cons v vs =>
    cases ht : v.runtimeType? with
    | none => simp only [commonType, ht, true_or]
    | some t =>
      cases hall : vs.all (·.runtimeType? == some t) with
      | false => simp [commonType, ht, hall]
      | true =>
        have hcommon : commonType (v :: vs) = t := by simp only [commonType, ht, hall, if_true]
        have hrest : ∀ u ∈ vs, u.runtimeType? = some t := by simpa using hall
        rw [hcommon]
        exact .inr (List.forall_mem_cons.2 ⟨ht, hrest⟩)

theorem assignableTo_commonType (vs : List Value) :
    ∀ v ∈ vs, v.assignableTo (commonType vs) = true := by
  intro v hv
  rcases commonType_cases vs with hany | hall
  · rw [hany]
    exact v.assignableTo_any
  · exact assignableTo_of_runtimeType (hall v hv)

end Value

end DynSeq
