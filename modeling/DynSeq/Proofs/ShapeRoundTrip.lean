import DynSeq.Conversion
import DynSeq.Proofs.OpenArray

namespace DynSeq.Shape

/-- The shapes whose data become values and come back from them. The items of a list have a type
that is known beforehand, and only an absent option becomes null. -/
inductive Convertible : Shape → Prop
  | int : Convertible .int
  | float : Convertible .float
  | bool : Convertible .bool
  | string : Convertible .string
  | null : Convertible .null
  | value : Convertible .value
  | list {item : Shape} {t : Ty} (ht : item.static? = some t) : Convertible (.list item)
  | option {shape : Shape} (h : Convertible shape) (hn : ∀ x, encode shape x ≠ .null) :
      Convertible (.option shape)

/-- The arrays that the list layers of a shape find in a value, each with the shape of its items. -/
def layers : Shape → Value → List (Shape × Value)
  | .list item, .array element items =>
    (item, .array element items) :: items.flatMap (layers item)
  | .option shape, v => layers shape v
  | _, _ => []

/-- The value with the declared types of these arrays forgotten, and of no others. -/
def erase : Shape → Value → Value
  | .list item, .array _ items => .array .any (items.map (erase item))
  | .option shape, v => erase shape v
  | _, v => v

section Items

variable {α : Type} {read : Value → Except ConversionError α} {write : α → Value}

theorem decodeItems_cons_eq_ok_iff {index : Nat} {v : Value} {rest : List Value} {xs : List α} :
    decodeItems read index (v :: rest) = .ok xs ↔ ∃ x ys, read v = .ok x ∧
      decodeItems read (index + 1) rest = .ok ys ∧ xs = x :: ys := by
  cases hv : read v with
  | error e =>
    rw [decodeItems, hv]
    constructor <;> nofun
  | ok x =>
    have hread : ((.ok x : Except ConversionError α).mapError (·.atIndex index)) = .ok x := rfl
    cases hrest : decodeItems read (index + 1) rest <;>
      simp [decodeItems, hv, hread, hrest, bind, Except.bind, pure, Except.pure, eq_comm]

theorem decodeItems_map (h : ∀ x, read (write x) = .ok x) (index : Nat) (xs : List α) :
    decodeItems read index (xs.map write) = .ok xs := by
  induction xs generalizing index with
  | nil => rfl
  | cons x rest ih => exact decodeItems_cons_eq_ok_iff.2 ⟨x, rest, h x, ih (index + 1), rfl⟩

theorem map_of_decodeItems {f : Value → Value} (h : ∀ v x, read v = .ok x → f (write x) = f v)
    {index : Nat} {vs : List Value} {xs : List α} (hvs : decodeItems read index vs = .ok xs) :
    (xs.map write).map f = vs.map f := by
  induction vs generalizing index xs with
  | nil =>
    cases hvs
    rfl
  | cons v rest ih =>
    obtain ⟨x, ys, hv, hrest, rfl⟩ := decodeItems_cons_eq_ok_iff.1 hvs
    rw [List.map_cons, List.map_cons, List.map_cons, h v x hv, ih hrest]

end Items

theorem static?_list_eq_some_iff {item : Shape} {t : Ty} :
    (Shape.list item).static? = some t ↔ ∃ u, item.static? = some u ∧ .array u = t :=
  Option.map_eq_some_iff

theorem encode_list {item : Shape} {t : Ty} (ht : item.static? = some t) (xs : List item.Data) :
    encode (.list item) xs = .array t (xs.map (encode item)) := by
  rw [encode, ht]
  rfl

theorem convertible_of_static {shape : Shape} {t : Ty} (ht : shape.static? = some t) :
    shape.Convertible := by
  cases shape with
  | list item =>
    obtain ⟨u, hu, -⟩ := static?_list_eq_some_iff.1 ht
    exact .list hu
  | null | option _ => cases ht
  | _ => constructor

theorem encode_assignableTo {shape : Shape} {t : Ty} (ht : shape.static? = some t)
    (x : shape.Data) : (encode shape x).assignableTo t = true := by
  cases shape with
  | value =>
    cases ht
    exact Value.assignableTo_any x
  | list item =>
    obtain ⟨u, hu, rfl⟩ := static?_list_eq_some_iff.1 ht
    rw [encode_list hu x]
    exact Value.assignableTo_of_runtimeType rfl
  | null | option _ => cases ht
  | int | float | bool | string =>
    cases ht
    rfl

theorem decode_option {shape : Shape} {v : Value} (hv : v ≠ .null) :
    decode (.option shape) v = (decode shape v).map some := by
  cases v with
  | null => exact absurd rfl hv
  | _ => rfl

theorem decode_encode_of_convertible {shape : Shape} (h : shape.Convertible) (x : shape.Data) :
    decode shape (encode shape x) = .ok x := by
  induction shape with
  | list item ih =>
    cases h with
    | list ht =>
      rw [encode_list ht]
      exact decodeItems_map (ih (convertible_of_static ht)) 0 x
  | option shape ih =>
    cases h with
    | option h hn =>
      cases x with
      | none => rfl
      | some x =>
        have hx : decode (.option shape) (encode shape x) = (decode shape (encode shape x)).map some :=
          decode_option (hn x)
        rw [ih h x] at hx
        exact hx
  | _ => rfl

theorem layers_null (shape : Shape) : layers shape .null = [] := by
  induction shape with
  | option shape ih => exact ih
  | _ => rfl

theorem layers_encode {shape : Shape} (h : shape.Convertible) (x : shape.Data) :
    ∀ layer ∈ layers shape (encode shape x), ∃ t items, layer.1.static? = some t ∧
      layer.2 = .array t items ∧ Sequence.ofValue layer.2 = .ok ⟨items, some t⟩ := by
  induction shape with
  | list item ih =>
    cases h with
    | @list item t ht =>
      rw [encode_list ht]
      refine List.forall_mem_cons.2 ⟨⟨t, _, ht, rfl, Sequence.ofValue_array ?_⟩, ?_⟩
      · intro v hv
        obtain ⟨y, -, rfl⟩ := List.mem_map.1 hv
        exact encode_assignableTo ht y
      · intro layer hlayer
        obtain ⟨v, hv, hin⟩ := List.mem_flatMap.1 hlayer
        obtain ⟨y, -, rfl⟩ := List.mem_map.1 hv
        exact ih (convertible_of_static ht) y layer hin
  | option shape ih =>
    cases h with
    | option h hn =>
      cases x with
      | none =>
        have hnone : layers (.option shape) (encode (.option shape) none) = [] := layers_null shape
        rw [hnone]
        nofun
      | some x => exact ih h x
  | _ => nofun

theorem erase_encode_of_decode {shape : Shape} {v : Value} {x : shape.Data}
    (h : decode shape v = .ok x) : erase shape (encode shape x) = erase shape v := by
  induction shape generalizing v with
  | list item ih =>
    cases v with
    | array element items =>
      have hitems := map_of_decodeItems (fun v x hv ↦ ih hv) h
      exact congrArg (Value.array .any) hitems
    | _ => cases h
  | option shape ih =>
    by_cases hv : v = .null
    · subst hv
      cases h
      rfl
    · rw [decode_option hv] at h
      cases hx : decode shape v with
      | error e =>
        rw [hx] at h
        cases h
      | ok y =>
        rw [hx] at h
        cases h
        exact ih hx
  | value =>
    cases h
    rfl
  | _ =>
    cases v <;> cases h
    rfl

/-- Data of a convertible shape come back from the value that they become, which has the static
type of the shape, if there is one, and holds only well-labelled arrays where there are lists. What
data are read from is, but for the labels of these arrays, the value that they become. -/
theorem encode_and_decode_inverse {shape : Shape} (h : shape.Convertible) :
    (∀ x, decode shape (encode shape x) = .ok x ∧
      (∀ t, shape.static? = some t → (encode shape x).assignableTo t = true) ∧
      ∀ layer ∈ layers shape (encode shape x), ∃ t items, layer.1.static? = some t ∧
        layer.2 = .array t items ∧ Sequence.ofValue layer.2 = .ok ⟨items, some t⟩) ∧
    ∀ v x, decode shape v = .ok x → erase shape (encode shape x) = erase shape v :=
  ⟨fun x ↦ ⟨decode_encode_of_convertible h x, fun _ ht ↦ encode_assignableTo ht x,
    layers_encode h x⟩, fun _ _ ↦ erase_encode_of_decode⟩

theorem optional_rows_inverse :
    (option (list (list float))).Convertible ∧
      decode (option (list (list float))) (encode (option (list (list float)))
        (some [[⟨0x7ff8000000000005⟩], []])) = .ok (some [[⟨0x7ff8000000000005⟩], []]) ∧
      decode (option (list (list float)))
          (.array .string [.array .any [.float ⟨0x7ff8000000000005⟩], .array .int []]) =
        .ok (some [[⟨0x7ff8000000000005⟩], []]) ∧
      erase (option (list (list float)))
          (encode (option (list (list float))) (some [[⟨0x7ff8000000000005⟩], []])) =
        erase (option (list (list float)))
          (.array .string [.array .any [.float ⟨0x7ff8000000000005⟩], .array .int []]) := by
  have h : (option (list (list float))).Convertible :=
    .option (.list (t := .array .float) rfl) nofun
  have hread : decode (option (list (list float)))
      (.array .string [.array .any [.float ⟨0x7ff8000000000005⟩], .array .int []]) =
    .ok (some [[⟨0x7ff8000000000005⟩], []]) := rfl
  exact ⟨h, ((encode_and_decode_inverse h).1 _).1, hread,
    (encode_and_decode_inverse h).2 _ _ hread⟩

end DynSeq.Shape
