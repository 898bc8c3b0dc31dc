import DynSeq.Proofs.LoadedDocument

namespace DynSeq

/-- What stands at a place of a document. A place is a list of positions, each of which leads into
an array, the outermost first. -/
def Json.at? : Json → List Nat → Option Json
  | json, [] => some json
  | .array items, i :: place => items[i]?.bind (·.at? place)
  | _, _ :: _ => none

theorem Json.at?_cons_eq_some_iff {json part : Json} {i : Nat} {place : List Nat} :
    json.at? (i :: place) = some part ↔ ∃ items item, json = .array items ∧
      items[i]? = some item ∧ item.at? place = some part := by
  cases json <;> simp [at?, Option.bind_eq_some_iff]

namespace Value

def at? : Value → List Nat → Option Value
  | v, [] => some v
  | .array _ items, i :: place => items[i]?.bind (·.at? place)
  | _, _ :: _ => none

theorem at?_cons_eq_some_iff {v part : Value} {i : Nat} {place : List Nat} :
    v.at? (i :: place) = some part ↔ ∃ element items item, v = .array element items ∧
      items[i]? = some item ∧ item.at? place = some part := by
  cases v with
  | array element items =>
    rw [at?, Option.bind_eq_some_iff]
    constructor
    · intro h
      obtain ⟨item, hi, hplace⟩ := h
      exact ⟨element, items, item, rfl, hi, hplace⟩
    · intro h
      obtain ⟨element', items', item, heq, hi, hplace⟩ := h
      cases heq
      exact ⟨item, hi, hplace⟩
  | _ => simp [at?]

section Reading

variable {untyped : Bool} {json : Json} {v : Value}

theorem exists_value_of_getElem? {jsons : List Json} {values : List Value}
    (h : ofJsons untyped jsons = .ok values) {i : Nat} (hi : jsons[i]? = some json) :
    ∃ v, values[i]? = some v ∧ ofJson untyped json = .ok v := by
  induction jsons generalizing values i with
  | nil => cases hi
  | cons first rest ih =>
    obtain ⟨v, vs, hv, hvs, rfl⟩ := ofJsons_cons_eq_ok_iff.1 h
    cases i with
    | zero =>
      cases hi
      exact ⟨v, rfl, hv⟩
    | succ i => exact ih hvs hi

theorem exists_value_at (h : ofJson untyped json = .ok v) {place : List Nat} {part : Json}
    (hpart : json.at? place = some part) :
    ∃ w, v.at? place = some w ∧ ofJson untyped part = .ok w := by
  induction place generalizing json v with
  | nil =>
    cases hpart
    exact ⟨v, rfl, h⟩
  | cons i place ih =>
    obtain ⟨jsons, inner, rfl, hi, hplace⟩ := Json.at?_cons_eq_some_iff.1 hpart
    obtain ⟨values, hvalues, rfl⟩ := ofJson_array_eq_ok_iff.1 h
    obtain ⟨item, hitem, hread⟩ := exists_value_of_getElem? hvalues hi
    obtain ⟨w, hw, hpartRead⟩ := ih hread hplace
    exact ⟨w, at?_cons_eq_some_iff.2 ⟨_, values, item, rfl, hitem, hw⟩, hpartRead⟩

theorem exists_document_at (h : ofJson untyped json = .ok v) {place : List Nat} {w : Value}
    (hw : v.at? place = some w) :
    ∃ part, json.at? place = some part ∧ ofJson untyped part = .ok w := by
  induction place generalizing json v with
  | nil =>
    cases hw
    exact ⟨json, rfl, h⟩
  | cons i place ih =>
    obtain ⟨element, items, item, rfl, hi, hplace⟩ := at?_cons_eq_some_iff.1 hw
    obtain ⟨jsons, rfl, hitems, -⟩ := ofJson_eq_array_iff.1 h
    obtain ⟨inner, hinner, hread⟩ := exists_getElem?_of_ofJsons hitems hi
    obtain ⟨part, hpart, hpartRead⟩ := ih hread hplace
    exact ⟨part, Json.at?_cons_eq_some_iff.2 ⟨jsons, inner, rfl, hinner, hpart⟩, hpartRead⟩

theorem element_at (h : ofJson untyped json = .ok v) {place : List Nat} {element : Ty}
    {items : List Value} (hw : v.at? place = some (.array element items)) :
    element = if untyped then .any else commonType items := by
  obtain ⟨part, -, hread⟩ := exists_document_at h hw
  obtain ⟨jsons, -, -, helement⟩ := ofJson_eq_array_iff.1 hread
  exact helement

end Reading

end Value

end DynSeq
