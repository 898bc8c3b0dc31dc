import DynSeq.Proofs.Agreement
import DynSeq.Proofs.Places
import DynSeq.Proofs.ShapeRoundTrip

namespace DynSeq.Shape

/-- The kind of value that a shape asks for. An option leaves that to what it holds, and any value
will do for `value`. -/
def kind? : Shape → Option String
  | .int => some "int"
  | .float => some "float"
  | .bool => some "bool"
  | .string => some "string"
  | .null => some "null"
  | .list _ => some "array"
  | .option _ | .value => none

/-- Reading data of a shape comes to the parts of a value, each at its place, and wants data of
another shape there: of an array the items, and of an option only what is not null. -/
inductive ComesTo : Shape → Value → List Nat → Shape → Value → Prop
  | here (shape : Shape) (v : Value) : ComesTo shape v [] shape v
  | present {shape wanted : Shape} {v w : Value} {place : List Nat} (hv : v ≠ .null)
      (h : ComesTo shape v place wanted w) : ComesTo (.option shape) v place wanted w
  | item {shape wanted : Shape} {element : Ty} {items : List Value} {index : Nat}
      {item w : Value} {place : List Nat} (hi : items[index]? = some item)
      (h : ComesTo shape item place wanted w) :
      ComesTo (.list shape) (.array element items) (index :: place) wanted w

/-- A part that reading comes to is not of the kind that is asked for there. -/
def Misfits (shape : Shape) (v : Value) (place : List Nat) (name : String) (w : Value) : Prop :=
  ∃ wanted, ComesTo shape v place wanted w ∧ wanted.kind? = some name ∧ w.kindName ≠ name

/-- What is said of a part at a place of a value: the whole value is named alone, and any other part
with its position in the array that it is an item of. -/
inductive Describes (v : Value) (name : String) : List Nat → Value → ConversionError → Prop
  | whole : Describes v name [] v (.typeMismatch name v.typeName)
  | item {around : List Nat} {element : Ty} {items : List Value} {index : Nat} {w : Value}
      (ha : v.at? around = some (.array element items)) (hi : items[index]? = some w) :
      Describes v name (around ++ [index]) w (.arrayElementTypeMismatch index name w.typeName)

/-- A failure tells of the first misfit: there is none before it in the order of places, in which an
array stands before its items and these stand from left to right. -/
def ReportsFirst (shape : Shape) (v : Value) (e : ConversionError) : Prop :=
  ∃ place name w, Misfits shape v place name w ∧
    (∀ other name' w', Misfits shape v other name' w' → ¬ List.Lex (· < ·) other place) ∧
    Describes v name place w e

section Items

variable {α : Type} {read : Value → Except ConversionError α} {items : List Value}

theorem decodeItems_cons_of_error {v : Value} {e : ConversionError} (h : read v = .error e)
    (index : Nat) (rest : List Value) :
    decodeItems read index (v :: rest) = .error (e.atIndex index) := by
  rw [decodeItems, h]
  rfl

theorem decodeItems_cons_eq_error_iff {v : Value} {x : α} (h : read v = .ok x) {index : Nat}
    {rest : List Value} {e : ConversionError} : decodeItems read index (v :: rest) = .error e ↔
      decodeItems read (index + 1) rest = .error e := by
  have hread : ((.ok x : Except ConversionError α).mapError (·.atIndex index)) = .ok x := rfl
  cases hrest : decodeItems read (index + 1) rest <;>
    simp [decodeItems, h, hread, hrest, bind, Except.bind, pure, Except.pure]

theorem decodeItems_eq_error {start : Nat} {e : ConversionError}
    (h : decodeItems read start items = .error e) : ∃ index item e', items[index]? = some item ∧
      read item = .error e' ∧ (∀ i < index, ∀ u, items[i]? = some u → ∃ x, read u = .ok x) ∧
      e = e'.atIndex (start + index) := by
  induction items generalizing start with
  | nil => cases h
  | cons v rest ih =>
    cases hv : read v with
    | error e' =>
      rw [decodeItems_cons_of_error hv] at h
      cases h
      exact ⟨0, v, e', rfl, hv, nofun, rfl⟩
    | ok x =>
      obtain ⟨index, item, e', hi, hitem, hbefore, rfl⟩ :=
        ih ((decodeItems_cons_eq_error_iff hv).1 h)
      refine ⟨index + 1, item, e', hi, hitem, ?_, by rw [Nat.add_right_comm, Nat.add_assoc]⟩
      intro i hlt u hu
      cases i with
      | zero =>
        cases hu
        exact ⟨x, hv⟩
      | succ i => exact hbefore i (by omega) u hu

theorem exists_ok_of_decodeItems {start : Nat} {xs : List α}
    (h : decodeItems read start items = .ok xs) {item : Value} (hitem : item ∈ items) :
    ∃ x, read item = .ok x := by
  induction items generalizing start xs with
  | nil => cases hitem
  | cons v rest ih =>
    obtain ⟨x, ys, hv, hrest, -⟩ := decodeItems_cons_eq_ok_iff.1 h
    rcases List.mem_cons.1 hitem with rfl | hmem
    · exact ⟨x, hv⟩
    · exact ih hrest hmem

end Items

theorem decode_of_kindName_ne {shape : Shape} {v : Value} {name : String}
    (hk : shape.kind? = some name) (hv : v.kindName ≠ name) :
    decode shape v = .error (.typeMismatch name v.typeName) := by
  cases shape with
  | option inner => cases hk
  | value => cases hk
  | _ =>
    cases hk
    cases v <;> first | rfl | exact absurd rfl hv

theorem decode_error_cases {shape : Shape} {v : Value} {e : ConversionError}
    (h : decode shape v = .error e) :
    (∃ name, shape.kind? = some name ∧ v.kindName ≠ name ∧ e = .typeMismatch name v.typeName) ∨
    (∃ inner, shape = .option inner ∧ v ≠ .null ∧ decode inner v = .error e) ∨
    ∃ inner element items, shape = .list inner ∧ v = .array element items ∧
      decodeItems (decode inner) 0 items = .error e := by
  cases shape with
  | option inner =>
    by_cases hv : v = .null
    · subst hv
      cases h
    · rw [decode_option hv] at h
      exact .inr (.inl ⟨inner, rfl, hv, map_eq_error_iff.1 h⟩)
  | list inner =>
    cases v with
    | array element items => exact .inr (.inr ⟨inner, element, items, rfl, rfl, h⟩)
    | _ =>
      cases h
      exact .inl ⟨"array", rfl, by simp [Value.kindName], rfl⟩
  | value => cases h
  | _ => cases v <;> cases h <;> exact .inl ⟨_, rfl, by simp [Value.kindName], rfl⟩

section Misfits

variable {shape : Shape} {v w : Value} {place : List Nat} {name : String} {element : Ty}
  {items : List Value}

theorem misfits_of_kindName_ne (hk : shape.kind? = some name) (hv : v.kindName ≠ name) :
    Misfits shape v [] name v :=
  ⟨shape, .here shape v, hk, hv⟩

theorem misfits_option (hv : v ≠ .null) :
    Misfits (.option shape) v place name w ↔ Misfits shape v place name w := by
  constructor
  · intro h
    obtain ⟨wanted, hcomes, hk, hw⟩ := h
    cases hcomes with
    | here => cases hk
    | present hv h => exact ⟨wanted, h, hk, hw⟩
  · intro h
    obtain ⟨wanted, hcomes, hk, hw⟩ := h
    exact ⟨wanted, .present hv hcomes, hk, hw⟩

theorem misfits_list : Misfits (.list shape) (.array element items) place name w ↔
    ∃ index item inner, place = index :: inner ∧ items[index]? = some item ∧
      Misfits shape item inner name w := by
  constructor
  · intro h
    obtain ⟨wanted, hcomes, hk, hw⟩ := h
    cases hcomes with
    | here =>
      cases hk
      exact absurd rfl hw
    | item hi h => exact ⟨_, _, _, rfl, hi, wanted, h, hk, hw⟩
  · intro h
    obtain ⟨index, item, inner, rfl, hi, wanted, hcomes, hk, hw⟩ := h
    exact ⟨wanted, .item hi hcomes, hk, hw⟩

theorem not_misfits_of_decode {x : shape.Data} (h : decode shape v = .ok x) :
    ¬ Misfits shape v place name w := by
  intro hmisfits
  obtain ⟨wanted, hcomes, hk, hw⟩ := hmisfits
  induction hcomes with
  | here =>
    rw [decode_of_kindName_ne hk hw] at h
    cases h
  | present hv hcomes ih =>
    rw [decode_option hv] at h
    obtain ⟨y, hy, -⟩ := map_eq_ok_iff.1 h
    exact ih hy hk hw
  | item hi hcomes ih =>
    obtain ⟨y, hy⟩ := exists_ok_of_decodeItems h (List.mem_of_getElem? hi)
    exact ih hy hk hw

theorem Describes.atIndex {e : ConversionError} {index : Nat} {item : Value}
    (hi : items[index]? = some item) (h : Describes item name place w e) :
    Describes (.array element items) name (index :: place) w (e.atIndex index) := by
  cases h with
  | whole =>
    rw [← List.nil_append [index]]
    exact .item rfl hi
  | item ha hi' =>
    rw [← List.cons_append]
    exact .item (Value.at?_cons_eq_some_iff.2 ⟨element, items, item, rfl, hi, ha⟩) hi'

theorem reportsFirst_whole (hk : shape.kind? = some name) (hv : v.kindName ≠ name) :
    ReportsFirst shape v (.typeMismatch name v.typeName) :=
  ⟨[], name, v, misfits_of_kindName_ne hk hv, nofun, .whole⟩

theorem ReportsFirst.option {e : ConversionError} (hv : v ≠ .null) (h : ReportsFirst shape v e) :
    ReportsFirst (.option shape) v e := by
  obtain ⟨place, name, w, hmisfits, hleast, hdescribes⟩ := h
  refine ⟨place, name, w, (misfits_option hv).2 hmisfits, ?_, hdescribes⟩
  intro other name' w' hother
  exact hleast other name' w' ((misfits_option hv).1 hother)

theorem ReportsFirst.list {e : ConversionError} {index : Nat} {item : Value}
    (hi : items[index]? = some item)
    (hbefore : ∀ i < index, ∀ u, items[i]? = some u → ∃ x, decode shape u = .ok x)
    (h : ReportsFirst shape item e) :
    ReportsFirst (.list shape) (.array element items) (e.atIndex index) := by
  obtain ⟨place, name, w, hmisfits, hleast, hdescribes⟩ := h
  refine ⟨index :: place, name, w, misfits_list.2 ⟨index, item, place, rfl, hi, hmisfits⟩, ?_,
    hdescribes.atIndex hi⟩
  intro other name' w' hother
  obtain ⟨i, u, inner, rfl, hu, hinner⟩ := misfits_list.1 hother
  intro hlex
  cases hlex with
  | rel hlt =>
    obtain ⟨x, hx⟩ := hbefore i hlt u hu
    exact not_misfits_of_decode hx hinner
  | cons hlex =>
    cases hi.symm.trans hu
    exact hleast inner name' w' hinner hlex

end Misfits

theorem reportsFirst_of_decode {shape : Shape} {v : Value} {e : ConversionError}
    (h : decode shape v = .error e) : ReportsFirst shape v e := by
  induction shape generalizing v e with
  | option inner ih =>
    rcases decode_error_cases h with ⟨name, hk, -⟩ | ⟨_, ⟨⟩, hv, hinner⟩ | ⟨_, _, _, ⟨⟩, -⟩
    · cases hk
    · exact (ih hinner).option hv
  | list item ih =>
    rcases decode_error_cases h with
      ⟨name, hk, hv, rfl⟩ | ⟨_, ⟨⟩, -⟩ | ⟨_, element, items, ⟨⟩, rfl, hitems⟩
    · exact reportsFirst_whole hk hv
    · obtain ⟨index, u, e', hi, hu, hbefore, rfl⟩ := decodeItems_eq_error hitems
      rw [Nat.zero_add]
      exact (ih hu).list hi hbefore
  | _ =>
    rcases decode_error_cases h with ⟨name, hk, hv, rfl⟩ | ⟨_, ⟨⟩, -⟩ | ⟨_, _, _, ⟨⟩, -⟩
    exact reportsFirst_whole hk hv

/-- Data of a shape can be read from a value unless there is a misfit in it, and then the first
misfit is reported, with its position in the innermost array around it if there is one. -/
theorem decode_reports_first (shape : Shape) (v : Value) :
    ((∃ e, decode shape v = .error e) ↔ ∃ place name w, Misfits shape v place name w) ∧
    ∀ e, decode shape v = .error e → ReportsFirst shape v e := by
  refine ⟨⟨?_, ?_⟩, fun e ↦ reportsFirst_of_decode⟩
  · intro h
    obtain ⟨e, he⟩ := h
    obtain ⟨place, name, w, hmisfits, -⟩ := reportsFirst_of_decode he
    exact ⟨place, name, w, hmisfits⟩
  · intro h
    obtain ⟨place, name, w, hmisfits⟩ := h
    cases hread : decode shape v with
    | error e => exact ⟨e, rfl⟩
    | ok x => exact absurd hmisfits (not_misfits_of_decode hread)

def jagged : Value :=
  .array .any [.array .int [.int 1], .null, .array .any [.int 2, .string "x"], .bool true]

theorem jagged_reports_first :
    decode (.list (.option (.list .int))) jagged =
        .error (.arrayElementTypeMismatch 1 "int" "string") ∧
      (∃ place name w, Misfits (.list (.option (.list .int))) jagged place name w) ∧
      ReportsFirst (.list (.option (.list .int))) jagged
        (.arrayElementTypeMismatch 1 "int" "string") := by
  have hread : decode (.list (.option (.list .int))) jagged =
    .error (.arrayElementTypeMismatch 1 "int" "string") := rfl
  obtain ⟨hfails, hreports⟩ := decode_reports_first (.list (.option (.list .int))) jagged
  exact ⟨hread, hfails.1 ⟨_, hread⟩, hreports _ hread⟩

end DynSeq.Shape
