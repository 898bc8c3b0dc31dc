import DynSeq.Proofs.DecimalText
import DynSeq.Proofs.Execution

namespace DynSeq.Json

/-- What is written as one word or as an integer of 64 bits, with a sign or without one. -/
inductive Plain : Json → Prop
  | null : Plain .null
  | bool (b : Bool) : Plain (.bool b)
  | integer {n : Int} (hlow : Int64.minValue.toInt ≤ n) (hhigh : n < UInt64.size) :
      Plain (.number (.integer n))

variable {json : Json} {items : List Json} {rest : List Char} {steps : Nat}

theorem Plain.exists_cons_print (h : json.Plain) : ∃ c cs, json.print.toList = c :: cs ∧
    isBlank c = false ∧ c ≠ '[' ∧ c ≠ ']' ∧ c ≠ '\x7b' := by
  cases h with
  | null => exact ⟨'n', _, rfl, by decide⟩
  | bool b =>
    cases b with
    | true => exact ⟨'t', _, rfl, by decide⟩
    | false => exact ⟨'f', _, rfl, by decide⟩
  | @integer n hlow hhigh =>
    obtain ⟨c, cs, hcons, hc⟩ := exists_cons_repr n
    rw [print, Number.print_integer]
    exact ⟨c, cs, hcons, isBlank_of_number hc, not_bracket hc⟩

theorem Plain.readValue_print (h : json.Plain) (hrest : Number.Ends rest) (steps depth : Nat) :
    readValue (steps + 1) depth (json.print.toList ++ rest) = some (json, rest) := by
  cases h with
  | null =>
    exact readValue_of_scalar rfl (by decide) (by decide) _ steps depth
  | bool b =>
    cases b <;> exact readValue_of_scalar rfl (by decide) (by decide) _ steps depth
  | @integer n hlow hhigh =>
    obtain ⟨c, cs, hcons, hc⟩ := exists_cons_repr n
    have hnumber := Number.read_repr hlow hhigh hrest
    rw [print, Number.print_integer]
    rw [hcons, List.cons_append] at hnumber ⊢
    rw [readValue_of_number hc, hnumber]
    rfl

section Items

def joinedItems (items : List Json) : List Char :=
  (",".intercalate (printItems items)).toList

theorem joinedItems_singleton (json : Json) : joinedItems [json] = json.print.toList := by
  simp [joinedItems, printItems]

theorem joinedItems_cons_cons (json next : Json) (items : List Json) :
    joinedItems (json :: next :: items) =
      json.print.toList ++ ',' :: joinedItems (next :: items) := by
  simp [joinedItems, printItems]

theorem readItems_joinedItems (hne : items ≠ []) (h : ∀ item ∈ items, item.Plain)
    (hsteps : items.length < steps) (depth : Nat) (rest : List Char) :
    readItems steps depth (joinedItems items ++ ']' :: rest) = some (items, rest) := by
  induction items generalizing steps with
  | nil => exact absurd rfl hne
  | cons item items ih =>
    obtain ⟨steps, rfl⟩ : ∃ n, steps = n + 2 := ⟨steps - 2, by simp at hsteps; omega⟩
    obtain ⟨hitem, hitems⟩ := List.forall_mem_cons.1 h
    cases items with
    | nil =>
      have hvalue := hitem.readValue_print (.bracket rest) steps depth
      rw [joinedItems_singleton, readItems, hvalue]
      rfl
    | cons next items =>
      have hvalue := hitem.readValue_print
        (.comma (joinedItems (next :: items) ++ ']' :: rest)) steps depth
      have hlast : (next :: items).length < steps + 1 := by simpa using hsteps
      have hnext := ih (List.cons_ne_nil _ _) hitems hlast
      rw [joinedItems_cons_cons, List.append_assoc, List.cons_append, readItems, hvalue]
      simp [skipBlank, isBlank, hnext]

theorem length_le_joinedItems (h : ∀ item ∈ items, item.Plain) :
    items.length ≤ (joinedItems items).length := by
  induction items with
  | nil => exact Nat.zero_le _
  | cons item items ih =>
    obtain ⟨hitem, hitems⟩ := List.forall_mem_cons.1 h
    obtain ⟨c, cs, hcons, -⟩ := hitem.exists_cons_print
    cases items with
    | nil => simp [joinedItems_singleton, hcons]
    | cons next items =>
      have hnext := ih hitems
      rw [joinedItems_cons_cons, hcons]
      simp only [List.length_cons, List.length_append] at hnext ⊢
      omega

theorem exists_cons_joinedItems {item : Json} (h : item.Plain) (items : List Json) :
    ∃ c cs, joinedItems (item :: items) = c :: cs ∧ isBlank c = false ∧ c ≠ ']' := by
  obtain ⟨c, cs, hcons, hblank, -, hclose, -⟩ := h.exists_cons_print
  cases items with
  | nil => exact ⟨c, cs, by rw [joinedItems_singleton, hcons], hblank, hclose⟩
  | cons next items =>
    exact ⟨c, _, by rw [joinedItems_cons_cons, hcons, List.cons_append], hblank, hclose⟩

end Items

theorem readValue_array {c : Char} (hblank : isBlank c = false) (hclose : c ≠ ']')
    (cs : List Char) (steps depth : Nat) :
    readValue (steps + 1) (depth + 1) ('[' :: c :: cs) =
      (readItems steps depth (c :: cs)).bind fun (items, rest) ↦ some (.array items, rest) := by
  have hopening : skipBlank ('[' :: c :: cs) = '[' :: c :: cs := rfl
  have hskip : skipBlank (c :: cs) = c :: cs := by
    rw [skipBlank, List.dropWhile_cons, hblank]
    rfl
  unfold readValue
  simp only [hopening, hskip]
  split
  · rename_i h
    cases h
    exact absurd rfl hclose
  · rfl

theorem Plain.read_print (h : json.Plain) : read json.print = some json := by
  have hvalue := h.readValue_print .nothing (2 * json.print.toList.length) maxDepth
  rw [List.append_nil] at hvalue
  simp only [read, hvalue]
  rfl

theorem read_print_array (h : ∀ item ∈ items, item.Plain) :
    read (Json.array items).print = some (.array items) := by
  cases items with
  | nil => rfl
  | cons item items =>
    have hletters : (Json.array (item :: items)).print.toList =
        '[' :: (joinedItems (item :: items) ++ [']']) := by
      simp [print, joinedItems]
    have hlength := length_le_joinedItems h
    have hsteps : (item :: items).length < 2 * (joinedItems (item :: items)).length + 4 := by omega
    obtain ⟨depth, hdepth⟩ : ∃ depth, maxDepth = depth + 1 := ⟨_, rfl⟩
    have hitems := readItems_joinedItems (List.cons_ne_nil _ _) h hsteps depth []
    obtain ⟨c, cs, hcons, hblank, hclose⟩ := exists_cons_joinedItems (h item List.mem_cons_self) items
    rw [hcons, List.cons_append] at hletters hitems
    have hvalue := readValue_array hblank hclose (cs ++ [']']) (2 * (c :: cs).length + 4) depth
    rw [hitems] at hvalue
    have hcount : 2 * ('[' :: c :: (cs ++ [']'])).length + 1 = 2 * (c :: cs).length + 4 + 1 := by
      simp
      omega
    simp only [read, hletters, hcount, hdepth, hvalue]
    rfl

end DynSeq.Json
