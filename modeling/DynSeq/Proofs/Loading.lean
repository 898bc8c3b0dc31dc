import DynSeq.Proofs.OpenArray
import DynSeq.Proofs.Places
import DynSeq.Proofs.Recoverable

namespace DynSeq.Value

section CommonType

theorem runtimeType?_ne_any (v : Value) : v.runtimeType? ≠ some .any := by
  cases v <;> simp [runtimeType?, Signature.toTy]

theorem commonType_eq_of_all {vs : List Value} {t : Ty} (hne : vs ≠ [])
    (hall : ∀ v ∈ vs, v.runtimeType? = some t) : commonType vs = t := by
  cases vs with
  | nil => exact absurd rfl hne
  | cons v rest =>
    obtain ⟨hv, hrest⟩ := List.forall_mem_cons.1 hall
    have hall : rest.all (·.runtimeType? == some t) = true := by simpa using hrest
    simp only [commonType, hv, hall, if_true]

theorem commonType_iff {vs : List Value} {t : Ty} : commonType vs = t ∧ t ≠ .any ↔
    vs ≠ [] ∧ ∀ v ∈ vs, v.runtimeType? = some t := by
  constructor
  · intro h
    obtain ⟨rfl, hany⟩ := h
    rcases commonType_cases vs with heq | hall
    · exact absurd heq hany
    · refine ⟨?_, hall⟩
      intro hnil
      rw [hnil] at hany
      exact hany rfl
  · intro h
    obtain ⟨hne, hall⟩ := h
    refine ⟨commonType_eq_of_all hne hall, ?_⟩
    intro hany
    subst hany
    obtain ⟨v, hv⟩ := List.exists_mem_of_ne_nil vs hne
    exact v.runtimeType?_ne_any (hall v hv)

end CommonType

section Arrays

variable {untyped : Bool} {json : Json} {v : Value} {place : List Nat} {element : Ty}
  {items : List Value}

theorem ofValue_at (h : ofJson untyped json = .ok v)
    (hw : v.at? place = some (.array element items)) :
    Sequence.ofValue (.array element items) = .ok ⟨items, some element⟩ := by
  refine Sequence.ofValue_array ?_
  intro item hitem
  rw [element_at h hw]
  cases untyped with
  | true => exact item.assignableTo_any
  | false => exact assignableTo_commonType items item hitem

/-- The two values that one document gives, with its arrays typed by their items and with its
arrays left open. -/
structure TypedByItems (typed bare : Value) : Prop where
  erased_eq : typed.erased = bare.erased
  bare_any : ∀ place element items, bare.at? place = some (.array element items) → element = .any
  typed_iff : ∀ place element items, typed.at? place = some (.array element items) → ∀ t,
    element = t ∧ t ≠ .any ↔ items ≠ [] ∧ ∀ item ∈ items, item.runtimeType? = some t
  accepted : ∀ v, v = typed ∨ v = bare → ∀ place element items,
    v.at? place = some (.array element items) →
    Sequence.ofValue (.array element items) = .ok ⟨items, some element⟩
  no_null : ∀ place element items, typed.at? place = some (.array element items) →
    element.isInterface = false → .null ∉ items

theorem null_not_mem (h : ofJson false json = .ok v)
    (hw : v.at? place = some (.array element items)) (hi : element.isInterface = false) :
    .null ∉ items := by
  intro hnull
  have hne : element ≠ .any := by
    intro hany
    subst hany
    cases hi
  obtain ⟨-, hall⟩ := commonType_iff.1 ⟨(element_at h hw).symm, hne⟩
  cases hall _ hnull

theorem typedByItems_of_ofJson (h : ofJson false json = .ok v) : TypedByItems v v.erased := by
  have hbare : ofJson true json = .ok v.erased := by rw [ofJson_true, h, Except.map]
  constructor
  · exact v.erased_erased.symm
  · intro place element items hw
    exact element_at hbare hw
  · intro place element items hw t
    rw [element_at h hw]
    exact commonType_iff
  · intro u hu place element items hw
    rcases hu with rfl | rfl
    · exact ofValue_at h hw
    · exact ofValue_at hbare hw
  · intro place element items hw hi
    exact null_not_mem h hw hi

/-- A document without objects is read, and an array in it declares the type of its items where
they have one in common. Left open, the same document gives the same value but for these types. -/
theorem read_typed_by_items (json : Json) :
    (∀ untyped e, ofJson untyped json = .error e ↔
      json.HasObject ∧ e = .unrepresentable "object" "value") ∧
    (¬ json.HasObject → ∃ typed bare, ofJson false json = .ok typed ∧
      ofJson true json = .ok bare ∧ TypedByItems typed bare) := by
  constructor
  · intro untyped e
    rcases ofJson_cases untyped json with ⟨⟨v, hv⟩, hnone⟩ | ⟨herror, hobject⟩
    · simp [hv, hnone]
    · simp [herror, hobject, eq_comm]
  · intro hnone
    rcases ofJson_cases false json with ⟨⟨v, hv⟩, -⟩ | ⟨-, hobject⟩
    · exact ⟨v, v.erased, hv, by rw [ofJson_true, hv, Except.map], typedByItems_of_ofJson hv⟩
    · exact absurd hobject hnone

def rowsDocument : Json :=
  .array [.array [.array [.number (.integer 1)], .array [.number (.integer 2)]],
    .array [.array [], .array [.number (.integer 3)]], .array [.bool true, .null]]

def rows : Value :=
  .array .any [.array (.array .int) [.array .int [.int 1], .array .int [.int 2]],
    .array .any [.array .any [], .array .int [.int 3]], .array .any [.bool true, .null]]

theorem rows_typed_by_items :
    ¬ rowsDocument.HasObject ∧ ofJson false rowsDocument = .ok rows ∧
      ofJson true rowsDocument = .ok rows.erased ∧ TypedByItems rows rows.erased := by
  obtain ⟨hfails, hreads⟩ := read_typed_by_items rowsDocument
  have hread : ofJson false rowsDocument = .ok rows := rfl
  have hbare : ofJson true rowsDocument = .ok rows.erased := rfl
  have hnone : ¬ rowsDocument.HasObject := by
    intro hobject
    cases hread.symm.trans ((hfails false _).2 ⟨hobject, rfl⟩)
  obtain ⟨typed, bare, htyped, hother, h⟩ := hreads hnone
  cases hread.symm.trans htyped
  cases hbare.symm.trans hother
  exact ⟨hnone, hread, hbare, h⟩

end Arrays

section Integers

variable {untyped : Bool} {json : Json} {v : Value} {place : List Nat} {n : Int}

theorem ofNumber_at (h : ofJson untyped json = .ok v) {n : Json.Number}
    (hn : json.at? place = some (.number n)) : v.at? place = some (ofNumber n) := by
  obtain ⟨w, hw, hread⟩ := exists_value_at h hn
  cases hread
  exact hw

/-- The integers of 64 bits with a sign are kept where they stand, and no others are: these become
the nearest floats. -/
theorem integer_kept_iff (h : ofJson untyped json = .ok v)
    (hn : json.at? place = some (.number (.integer n))) :
    ((∃ m : Int64, v.at? place = some (.int m) ∧ m.toInt = n) ↔
      Int64.minValue.toInt ≤ n ∧ n ≤ Int64.maxValue.toInt) ∧
    (¬ (Int64.minValue.toInt ≤ n ∧ n ≤ Int64.maxValue.toInt) →
      v.at? place = some (.float (Double.ofInt n))) := by
  have hv := ofNumber_at h hn
  rw [ofNumber] at hv
  constructor
  · constructor
    · intro hm
      obtain ⟨m, hm, rfl⟩ := hm
      exact ⟨m.le_toInt, m.toInt_le⟩
    · intro hrange
      rw [if_pos hrange] at hv
      exact ⟨Int64.ofInt n, hv, Int64.toInt_ofInt_of_le hrange.1 (Int.lt_add_one_iff.2 hrange.2)⟩
  · intro hrange
    rw [if_neg hrange] at hv
    exact hv

theorem largest_integer_kept :
    ofJson true (.array [.null, .array [.number (.integer 9223372036854775807)]]) =
        .ok (.array .any [.null, .array .any [.int 9223372036854775807]]) ∧
      (Json.array [.null, .array [.number (.integer 9223372036854775807)]]).at? [1, 0] =
        some (.number (.integer 9223372036854775807)) ∧
      ∃ m : Int64, (Value.array .any [.null, .array .any [.int 9223372036854775807]]).at? [1, 0] =
        some (.int m) ∧ m.toInt = 9223372036854775807 := by
  have hread : ofJson true (.array [.null, .array [.number (.integer 9223372036854775807)]]) =
    .ok (.array .any [.null, .array .any [.int 9223372036854775807]]) := rfl
  have hplace : (Json.array [.null, .array [.number (.integer 9223372036854775807)]]).at? [1, 0] =
    some (.number (.integer 9223372036854775807)) := rfl
  exact ⟨hread, hplace, (integer_kept_iff hread hplace).1.2 (by decide)⟩

/-- The least integer that is read as another number. It is neither kept nor refused. -/
theorem large_integer_rounded :
    Json.read "9223372036854775809" = some (.number (.integer 9223372036854775809)) ∧
      ofJson false (.number (.integer 9223372036854775809)) = .ok (.float ⟨0x43e0000000000000⟩) ∧
      Double.ratio ⟨0x43e0000000000000⟩ = (9223372036854775808, 1) ∧
      ¬ ∀ untyped json v place n, ofJson untyped json = .ok v →
        json.at? place = some (.number (.integer n)) →
        ∃ m : Int64, v.at? place = some (.int m) ∧ m.toInt = n := by
  have hread : ofJson false (.number (.integer 9223372036854775809)) =
    .ok (.float ⟨0x43e0000000000000⟩) := rfl
  refine ⟨rfl, hread, rfl, ?_⟩
  intro hkept
  obtain ⟨m, hm, -⟩ := hkept false _ _ [] _ hread rfl
  cases hm

end Integers

end DynSeq.Value
