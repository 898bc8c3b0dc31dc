import DynSeq.Json.Reader
import DynSeq.Proofs.Rounding

namespace DynSeq

/-- A document as memory holds it: an integer is written with 64 bits, signed or not, and every
other number is finite. -/
inductive Json.Stored : Json → Prop
  | null : Stored .null
  | bool (b : Bool) : Stored (.bool b)
  | integer {n : Int} (hlow : Int64.minValue.toInt ≤ n) (hhigh : n < UInt64.size) :
      Stored (.number (.integer n))
  | float {x : Double} (h : x.isFinite = true) : Stored (.number (.float x))
  | string (s : String) : Stored (.string s)
  | array {items : List Json} (h : ∀ item ∈ items, Stored item) : Stored (.array items)
  | object {members : List (String × Json)} (h : ∀ member ∈ members, Stored member.2) :
      Stored (.object members)

theorem Json.Stored.items {items : List Json} (h : Stored (.array items)) :
    ∀ item ∈ items, Stored item := by
  cases h with
  | array h => exact h

namespace Json.Number

variable {significand taken : Nat}

theorem absorb_lt (h : significand < UInt64.size) (taken : Nat) (cs : List Char) :
    (absorb significand taken cs).1 < UInt64.size := by
  induction cs generalizing significand taken with
  | nil => exact h
  | cons c rest ih =>
    rw [absorb]
    split
    · rename_i hnext
      exact ih hnext (taken + 1)
    · exact h

theorem le_magnitude_powerOfTen {exponent : Nat} (h : exponent ≤ 308) :
    (3 * exponent + 1021) <<< 52 ≤ (powerOfTen exponent).magnitude := by
  have hne : Nat.pow 10 exponent ≠ 0 := Nat.ne_of_gt (Nat.pow_pos (by decide))
  have hpow : 2 ^ (3 * exponent) ≤ Nat.pow 10 exponent := by
    rw [Nat.pow_mul]
    exact Nat.pow_le_pow_left (by decide) exponent
  have hlog : 3 * exponent ≤ (Nat.pow 10 exponent).log2 := (Nat.le_log2 hne).2 hpow
  have hone : Nat.log2 1 = 0 := by decide
  exact Double.le_magnitude_nearest false hne (by omega) (by omega)

theorem isFinite_scaleDown {x : Double} (hx : x.magnitude ≤ (63 + 1026) <<< 52)
    (exponent : Nat) : (scaleDown x exponent).isFinite = true := by
  induction exponent using Nat.strongRecOn generalizing x with
  | ind exponent ih =>
    rw [scaleDown]
    split
    · rename_i hlast
      have hle := Double.magnitude_divAbs_le hx (le_magnitude_powerOfTen hlast)
        (show 63 + 7 ≤ 3 * exponent + 70 by omega)
      exact Double.isFinite_of_magnitude_le hle (by decide)
    · split
      · exact Double.isFinite_of_magnitude_le hx (by decide)
      · -- A step makes the number so much smaller that rounding does not matter.
        have hle := Double.magnitude_divAbs_le hx (le_magnitude_powerOfTen (Nat.le_refl 308))
          (show 63 + 7 ≤ 3 * 308 + 63 by decide)
        exact ih (exponent - 308) (by omega) hle

theorem isFinite_of_scaled (h : significand < UInt64.size) {exponent : Int} {x : Double}
    (hx : scaled significand exponent = some x) : x.isFinite = true := by
  have hsignificand : (Double.ofNat significand).magnitude ≤ (63 + 1026) <<< 52 :=
    Double.magnitude_nearest_one_le false h
  unfold scaled at hx
  dsimp only at hx
  split at hx
  · cases hx
    exact isFinite_scaleDown hsignificand _
  · split at hx
    · cases hx
      exact Double.isFinite_of_magnitude_le hsignificand (by decide)
    · split at hx
      · cases hx
      · split at hx
        · cases hx
          assumption
        · cases hx

theorem stored_of_floating {negative : Bool} (h : significand < UInt64.size) {exponent : Int}
    {n : Number} (hn : floating negative significand exponent = some n) :
    Stored (.number n) := by
  obtain ⟨x, hx, rfl⟩ := Option.map_eq_some_iff.1 hn
  exact .float (Double.isFinite_ofParts negative (isFinite_of_scaled h hx))

theorem stored_of_whole {negative : Bool} (h : significand < UInt64.size) {n : Number}
    (hn : whole negative significand = some n) : Stored (.number n) := by
  have hmin : Int64.minValue.toInt = -9223372036854775808 := rfl
  have hbit : 1 <<< 63 = 9223372036854775808 := rfl
  have hsize : UInt64.size = 18446744073709551616 := rfl
  unfold whole at hn
  split at hn
  · cases hn
    exact .integer (by omega) (by omega)
  · split at hn
    · exact stored_of_floating h hn
    · cases hn
      exact .integer (by omega) (by omega)

theorem stored_of_ofWritten {w : Written} {n : Number} (hn : ofWritten w = some n) :
    Stored (.number n) := by
  have hwhole : (absorb 0 0 w.whole).1 < UInt64.size := absorb_lt (by decide) 0 w.whole
  unfold ofWritten at hn
  dsimp only at hn
  split at hn
  · exact stored_of_whole hwhole hn
  · exact stored_of_floating (absorb_lt hwhole 0 _) hn

theorem stored_of_readUnsigned {negative : Bool} {cs rest : List Char} {n : Number}
    (h : readUnsigned negative cs = some (n, rest)) : Stored (.number n) := by
  unfold readUnsigned at h
  dsimp only at h
  split at h
  · cases h
  · obtain ⟨⟨decimals, cs⟩, -, h⟩ := Option.bind_eq_some_iff.1 h
    obtain ⟨⟨exponent, cs⟩, -, h⟩ := Option.bind_eq_some_iff.1 h
    obtain ⟨m, hm, h⟩ := Option.bind_eq_some_iff.1 h
    cases h
    exact stored_of_ofWritten hm

theorem stored_of_read {cs rest : List Char} {n : Number} (h : read cs = some (n, rest)) :
    Stored (.number n) := by
  unfold read at h
  split at h
  · exact stored_of_readUnsigned h
  · exact stored_of_readUnsigned h

end Json.Number

namespace Json

theorem stored_of_readScalar {cs rest : List Char} {json : Json}
    (h : readScalar cs = some (json, rest)) : json.Stored := by
  unfold readScalar at h
  split at h
  · cases h
    exact .null
  · cases h
    exact .bool true
  · cases h
    exact .bool false
  · obtain ⟨⟨s, cs⟩, -, h⟩ := Option.bind_eq_some_iff.1 h
    cases h
    exact .string s
  · obtain ⟨⟨n, cs⟩, hn, h⟩ := Option.bind_eq_some_iff.1 h
    cases h
    exact Number.stored_of_read hn

structure ReadsStored (steps : Nat) : Prop where
  value : ∀ {depth cs json rest}, readValue steps depth cs = some (json, rest) → json.Stored
  items : ∀ {depth cs items rest}, readItems steps depth cs = some (items, rest) →
    ∀ item ∈ items, item.Stored
  members : ∀ {depth cs members rest}, readMembers steps depth cs = some (members, rest) →
    ∀ member ∈ members, member.2.Stored

theorem readsStored (steps : Nat) : ReadsStored steps := by
  induction steps with
  | zero => exact ⟨nofun, nofun, nofun⟩
  | succ steps ih =>
    constructor
    · intro depth cs json rest h
      unfold readValue at h
      split at h
      · cases h
      · split at h
        · cases h
          exact .array nofun
        · obtain ⟨⟨items, cs⟩, hitems, h⟩ := Option.bind_eq_some_iff.1 h
          cases h
          exact .array (ih.items hitems)
      · cases h
      · split at h
        · cases h
          exact .object nofun
        · obtain ⟨⟨members, cs⟩, hmembers, h⟩ := Option.bind_eq_some_iff.1 h
          cases h
          exact .object (ih.members hmembers)
      · exact stored_of_readScalar h
    · intro depth cs items rest h
      unfold readItems at h
      obtain ⟨⟨item, cs⟩, hitem, h⟩ := Option.bind_eq_some_iff.1 h
      have hfirst := ih.value hitem
      dsimp only at h
      split at h
      · obtain ⟨⟨others, cs⟩, hothers, h⟩ := Option.bind_eq_some_iff.1 h
        cases h
        exact List.forall_mem_cons.2 ⟨hfirst, ih.items hothers⟩
      · cases h
        exact List.forall_mem_singleton.2 hfirst
      · cases h
    · intro depth cs members rest h
      unfold readMembers at h
      split at h
      · obtain ⟨⟨key, cs⟩, -, h⟩ := Option.bind_eq_some_iff.1 h
        dsimp only at h
        split at h
        · obtain ⟨⟨value, cs⟩, hvalue, h⟩ := Option.bind_eq_some_iff.1 h
          have hfirst := ih.value hvalue
          dsimp only at h
          split at h
          · obtain ⟨⟨others, cs⟩, hothers, h⟩ := Option.bind_eq_some_iff.1 h
            cases h
            exact List.forall_mem_cons.2 ⟨hfirst, ih.members hothers⟩
          · cases h
            exact List.forall_mem_singleton.2 hfirst
          · cases h
        · cases h
      · cases h

theorem stored_of_read {text : String} {json : Json} (h : read text = some json) :
    json.Stored := by
  unfold read at h
  obtain ⟨⟨value, rest⟩, hvalue, h⟩ := Option.bind_eq_some_iff.1 h
  dsimp only at h
  split at h
  · cases h
    exact (readsStored _).value hvalue
  · cases h

end Json

end DynSeq
