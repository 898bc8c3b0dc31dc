import DynSeq.Json.Reader
import Mathlib.Data.List.TakeWhile

namespace DynSeq.Json

namespace Number

theorem le_ofDigitChars (cs : List Char) (n : Nat) : n ≤ Nat.ofDigitChars 10 cs n := by
  induction cs generalizing n with
  | nil => exact Nat.le_of_eq Nat.ofDigitChars_nil.symm
  | cons c cs ih =>
    have h := ih (10 * n + (c.toNat - '0'.toNat))
    rw [Nat.ofDigitChars_cons]
    omega

theorem absorb_of_lt {cs : List Char} {significand : Nat}
    (h : Nat.ofDigitChars 10 cs significand < UInt64.size) (taken : Nat) :
    absorb significand taken cs = (Nat.ofDigitChars 10 cs significand, taken + cs.length) := by
  induction cs generalizing significand taken with
  | nil => rw [Nat.ofDigitChars_nil]; rfl
  | cons c cs ih =>
    rw [Nat.ofDigitChars_cons] at h ⊢
    have hnext : 10 * significand + digitValue c < UInt64.size :=
      Nat.lt_of_le_of_lt (le_ofDigitChars cs _) h
    have hlength : taken + (c :: cs).length = taken + 1 + cs.length := by
      rw [List.length_cons]
      omega
    rw [hlength]
    simp only [absorb, hnext, if_true]
    exact ih h (taken + 1)

section Digits

variable {n : Nat}

theorem isDigit_of_mem_digits : ∀ c ∈ Nat.toDigits 10 n, c.isDigit = true := by
  intro c hc
  exact Nat.isDigit_of_mem_toDigits (by decide) (by decide) hc

theorem head?_digits_ne_zero (h : 0 < n) : (Nat.toDigits 10 n).head? ≠ some '0' := by
  induction n using Nat.strongRecOn with
  | ind n ih =>
    by_cases hlt : n < 10
    · rw [Nat.toDigits_of_lt_base hlt]
      intro hzero
      have hn : n = 0 := Nat.digitChar_eq_zero.1 (Option.some.inj hzero)
      omega
    · have hhead := ih (n / 10) (by omega) (by omega)
      have hfirst := List.head?_eq_some_head (Nat.toDigits_ne_nil (n := n / 10) (b := 10))
      rw [hfirst] at hhead
      rwa [Nat.toDigits_of_base_le (by decide) (by omega), List.head?_append, hfirst,
        Option.some_or]

theorem digits_well_formed (n : Nat) : ((Nat.toDigits 10 n).isEmpty ||
    ((Nat.toDigits 10 n).head? == some '0' &&
      decide (1 < (Nat.toDigits 10 n).length))) = false := by
  rw [Bool.or_eq_false_iff, List.isEmpty_eq_false_iff]
  refine ⟨Nat.toDigits_ne_nil, ?_⟩
  by_cases hn : n = 0
  · subst hn
    rfl
  · have hhead := head?_digits_ne_zero (Nat.pos_of_ne_zero hn)
    rw [beq_false_of_ne hhead, Bool.false_and]

/-- What may stand behind a number without being taken for a part of it: nothing, or what ends an
item of an array. -/
inductive Ends : List Char → Prop
  | nothing : Ends []
  | comma (rest : List Char) : Ends (',' :: rest)
  | bracket (rest : List Char) : Ends (']' :: rest)

section Ends

variable {digits rest : List Char} (h : Ends rest)
include h

theorem Ends.takeWhile_append (hdigits : ∀ c ∈ digits, c.isDigit = true) :
    (digits ++ rest).takeWhile Char.isDigit = digits := by
  have hrest : rest.takeWhile Char.isDigit = [] := by cases h <;> rfl
  rw [List.takeWhile_append_of_pos hdigits, hrest, List.append_nil]

theorem Ends.dropWhile_append (hdigits : ∀ c ∈ digits, c.isDigit = true) :
    (digits ++ rest).dropWhile Char.isDigit = rest := by
  rw [List.dropWhile_append_of_pos hdigits]
  cases h <;> rfl

theorem Ends.readDecimals_eq : readDecimals rest = some (none, rest) := by
  cases h <;> rfl

theorem Ends.readExponent_eq : readExponent rest = some (none, rest) := by
  cases h <;> rfl

end Ends

theorem readUnsigned_digits (negative : Bool) (h : n < UInt64.size) {rest : List Char}
    (hrest : Ends rest) :
    readUnsigned negative (Nat.toDigits 10 n ++ rest) = (whole negative n).map (·, rest) := by
  have htake := hrest.takeWhile_append (isDigit_of_mem_digits (n := n))
  have hdrop := hrest.dropWhile_append (isDigit_of_mem_digits (n := n))
  have hvalue : Nat.ofDigitChars 10 (Nat.toDigits 10 n) 0 = n := Nat.ofDigitChars_ten_toDigits
  have habsorb := absorb_of_lt (hvalue.symm ▸ h) 0
  rw [hvalue, Nat.zero_add] at habsorb
  have hwritten : ofWritten ⟨negative, Nat.toDigits 10 n, none, none⟩ = whole negative n := by
    simp only [ofWritten, habsorb, Int.sub_self, and_self, if_true]
  simp only [readUnsigned, htake, hdrop, digits_well_formed, Bool.false_eq_true, if_false,
    hrest.readDecimals_eq, hrest.readExponent_eq, Option.bind_eq_bind, Option.bind_some, hwritten]
  cases whole negative n <;> rfl

end Digits

theorem read_of_head?_ne {cs : List Char} (h : cs.head? ≠ some '-') :
    read cs = readUnsigned false cs := by
  unfold read
  split
  · exact absurd rfl h
  · rfl

theorem read_repr {n : Int} (hlow : Int64.minValue.toInt ≤ n) (hhigh : n < UInt64.size)
    {rest : List Char} (hrest : Ends rest) :
    read (n.repr.toList ++ rest) = some (.integer n, rest) := by
  cases n with
  | ofNat n =>
    have hdigits : (Int.ofNat n).repr.toList = Nat.toDigits 10 n := Nat.toList_repr
    have hfirst : (Nat.toDigits 10 n ++ rest).head? ≠ some '-' := by
      obtain ⟨c, cs, hcons⟩ := List.exists_cons_of_ne_nil (Nat.toDigits_ne_nil (n := n) (b := 10))
      have hdigit := isDigit_of_mem_digits c (hcons ▸ List.mem_cons_self)
      rw [hcons]
      rintro ⟨⟩
      cases hdigit
    rw [hdigits, read_of_head?_ne hfirst, readUnsigned_digits false (Int.ofNat_lt.1 hhigh) hrest]
    rfl
  | negSucc n =>
    have hdigits : (Int.negSucc n).repr.toList = '-' :: Nat.toDigits 10 (n + 1) := by
      rw [Int.repr, String.toList_append, Nat.toList_repr]
      rfl
    have hmin : Int64.minValue.toInt = -9223372036854775808 := rfl
    have hsize : UInt64.size = 18446744073709551616 := rfl
    have hbit : 1 <<< 63 = 9223372036854775808 := rfl
    have hwhole : whole true (n + 1) = some (.integer (Int.negSucc n)) := by
      have hsmall : ¬ (n + 1 = 0 ∨ 1 <<< 63 < n + 1) := by omega
      simp only [whole, Bool.not_true, Bool.false_eq_true, if_false, hsmall, Int.negSucc_eq]
      rfl
    rw [hdigits, List.cons_append, read, readUnsigned_digits true (by omega) hrest, hwhole]
    rfl

end Number

theorem readValue_of_scalar {c : Char} (hblank : isBlank c = false) (hbracket : c ≠ '[')
    (hbrace : c ≠ '\x7b') (cs : List Char) (steps depth : Nat) :
    readValue (steps + 1) depth (c :: cs) = readScalar (c :: cs) := by
  have hskip : skipBlank (c :: cs) = c :: cs := by
    rw [skipBlank, List.dropWhile_cons, hblank]
    rfl
  have hopen : ∀ rest,
      skipBlank (c :: cs) ≠ '[' :: rest ∧ skipBlank (c :: cs) ≠ '\x7b' :: rest := by
    intro rest
    simp [hskip, hbracket, hbrace]
  rw [readValue, hskip]
  · intro rest h
    exact absurd h (hopen rest).1
  · intro rest depth h
    exact absurd h (hopen rest).1
  · intro rest h
    exact absurd h (hopen rest).2
  · intro rest depth h
    exact absurd h (hopen rest).2

section Scalar

variable {c : Char} (hc : c = '-' ∨ c.isDigit = true)
include hc

theorem isBlank_of_number : isBlank c = false := by
  rcases hc with rfl | hdigit
  · rfl
  · cases h : isBlank c with
    | false => rfl
    | true =>
      simp only [isBlank, Bool.or_eq_true, decide_eq_true_eq] at h
      rcases h with ((rfl | rfl) | rfl) | rfl <;> cases hdigit

theorem not_bracket : c ≠ '[' ∧ c ≠ ']' ∧ c ≠ '\x7b' := by
  refine ⟨?_, ?_, ?_⟩ <;> rintro rfl <;> exact absurd hc (by decide)

theorem readScalar_of_number (cs : List Char) : readScalar (c :: cs) =
    (Number.read (c :: cs)).bind fun (n, rest) ↦ some (.number n, rest) := by
  unfold readScalar
  split
  case h_5 => rfl
  all_goals
    rename_i h
    cases h
    exact absurd hc (by decide)

theorem readValue_of_number (cs : List Char) (steps depth : Nat) :
    readValue (steps + 1) depth (c :: cs) =
      (Number.read (c :: cs)).bind fun (n, rest) ↦ some (.number n, rest) := by
  obtain ⟨hbracket, -, hbrace⟩ := not_bracket hc
  rw [readValue_of_scalar (isBlank_of_number hc) hbracket hbrace, readScalar_of_number hc]

end Scalar

theorem exists_cons_repr (n : Int) :
    ∃ c cs, n.repr.toList = c :: cs ∧ (c = '-' ∨ c.isDigit = true) := by
  cases n with
  | ofNat n =>
    have hdigits : (Int.ofNat n).repr.toList = Nat.toDigits 10 n := Nat.toList_repr
    obtain ⟨c, cs, hcons⟩ := List.exists_cons_of_ne_nil (Nat.toDigits_ne_nil (n := n) (b := 10))
    rw [hdigits, hcons]
    have hmem : c ∈ Nat.toDigits 10 n := by
      rw [hcons]
      exact List.mem_cons_self
    exact ⟨c, cs, rfl, .inr (Number.isDigit_of_mem_digits c hmem)⟩
  | negSucc n =>
    rw [Int.repr, String.toList_append]
    exact ⟨'-', (n + 1).repr.toList, rfl, .inl rfl⟩

theorem read_repr {n : Int} (hlow : Int64.minValue.toInt ≤ n) (hhigh : n < UInt64.size) :
    read n.repr = some (.number (.integer n)) := by
  obtain ⟨c, cs, hcons, hc⟩ := exists_cons_repr n
  have hnumber := Number.read_repr hlow hhigh .nothing
  rw [List.append_nil, hcons] at hnumber
  have hvalue : readValue (2 * (c :: cs).length + 1) maxDepth (c :: cs) =
      some (.number (.integer n), []) := by
    rw [readValue_of_number hc, hnumber]
    rfl
  simp only [read, hcons, hvalue]
  rfl

end DynSeq.Json
