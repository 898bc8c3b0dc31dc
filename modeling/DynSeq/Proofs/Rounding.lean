import DynSeq.Double.Rounding

namespace DynSeq.Double

theorem log2_le_of_lt {n k : Nat} (h : n < 1 <<< (k + 1)) : n.log2 ≤ k := by
  rw [Nat.one_shiftLeft] at h
  by_cases hn : n = 0
  · rw [hn]
    exact Nat.zero_le k
  · exact Nat.le_of_lt_succ ((Nat.log2_lt hn).2 h)

theorem log2_mul_le (a b : Nat) : (a * b).log2 ≤ a.log2 + b.log2 + 1 := by
  refine log2_le_of_lt ?_
  have hexponent : a.log2 + b.log2 + 1 + 1 = a.log2 + 1 + (b.log2 + 1) := by omega
  rw [Nat.one_shiftLeft, hexponent, Nat.pow_add]
  exact Nat.mul_lt_mul'' Nat.lt_log2_self Nat.lt_log2_self

theorem le_log2_mul {a b : Nat} (ha : a ≠ 0) (hb : b ≠ 0) : a.log2 + b.log2 ≤ (a * b).log2 := by
  rw [Nat.le_log2 (Nat.mul_ne_zero ha hb), Nat.pow_add]
  exact Nat.mul_le_mul (Nat.log2_self_le ha) (Nat.log2_self_le hb)

theorem magnitude_ofParts (negative : Bool) {m : Nat} (h : m < 1 <<< 63) :
    (ofParts negative m).magnitude = m := by
  have hm : m < 2 ^ 63 := h
  simp only [magnitude, ofParts, UInt64.toNat_ofNat', Nat.shiftLeft_eq, Nat.one_mul]
  cases negative
  · simp only [Bool.false_eq_true, if_false]
    omega
  · simp only [if_true]
    omega

theorem isFinite_iff_magnitude {x : Double} : x.isFinite = true ↔ x.magnitude < infinity := by
  have hinfinity : infinity = 2047 * 2 ^ 52 := rfl
  simp only [isFinite, exponentField, Nat.shiftRight_eq_div_pow, decide_eq_true_eq]
  omega

theorem isFinite_ofParts (negative : Bool) {x : Double} (h : x.isFinite = true) :
    (ofParts negative x.magnitude).isFinite = true := by
  have hlt := isFinite_iff_magnitude.1 h
  have hinfinity : infinity < 1 <<< 63 := by decide
  rwa [isFinite_iff_magnitude, magnitude_ofParts negative (by omega)]

theorem roundDiv_le (num den : Nat) : roundDiv num den ≤ num / den + 1 := by
  unfold roundDiv
  dsimp only
  split <;> omega

-- The bounds below are rough: a rounded quotient is only kept away from infinity, by many places.

theorem magnitudeAt_le_infinity (num den : Nat) (scale : Int) :
    magnitudeAt num den scale ≤ infinity :=
  Nat.min_le_left ..

theorem magnitudeAt_le {num den places : Nat} {scale : Int} (hscale : scale + 52 ≤ places)
    (h : num <<< (-scale).toNat < (den <<< scale.toNat) <<< 54) :
    magnitudeAt num den scale ≤ (places + 1026) <<< 52 := by
  rw [Nat.shiftLeft_eq _ 54] at h
  have hquotient : num <<< (-scale).toNat / den <<< scale.toNat < 2 ^ 54 := Nat.div_lt_of_lt_mul h
  have hround := roundDiv_le (num <<< (-scale).toNat) (den <<< scale.toNat)
  have hexponent : (scale + 1074).toNat ≤ places + 1022 := by omega
  simp only [magnitudeAt, Nat.shiftLeft_eq _ 52]
  omega

theorem le_magnitudeAt {num den : Nat} {scale : Int} {exponent : Nat}
    (hscale : (exponent : Int) ≤ scale + 1074) (h : exponent ≤ 2047) :
    exponent <<< 52 ≤ magnitudeAt num den scale := by
  have hinfinity : infinity = 2047 * 2 ^ 52 := rfl
  simp only [magnitudeAt, Nat.shiftLeft_eq _ 52]
  omega

section Nearest

variable {num den places : Nat}

theorem magnitude_nearest_le (negative : Bool) (hden : den ≠ 0)
    (h : num.log2 ≤ den.log2 + places) :
    (nearest negative num den).magnitude ≤ (places + 1026) <<< 52 := by
  have hinfinity : infinity < 1 <<< 63 := by decide
  unfold nearest
  split
  · rw [magnitude_ofParts negative (by decide)]
    exact Nat.zero_le _
  · rename_i hnum
    rw [magnitude_ofParts negative
      (Nat.lt_of_le_of_lt (magnitudeAt_le_infinity ..) hinfinity)]
    refine magnitudeAt_le ?_ ?_
    · split <;> omega
    · generalize hscale : max _ (-1074 : Int) = scale
      have hle : (num.log2 : Int) - den.log2 - 53 ≤ scale := by
        rw [← hscale]
        split <;> omega
      have hnumlt : num < 2 ^ (num.log2 + 1) := Nat.lt_log2_self
      have hdenle : 2 ^ den.log2 ≤ den := Nat.log2_self_le hden
      calc num <<< (-scale).toNat
          = num * 2 ^ (-scale).toNat := Nat.shiftLeft_eq ..
        _ < 2 ^ (num.log2 + 1) * 2 ^ (-scale).toNat :=
          Nat.mul_lt_mul_of_pos_right hnumlt (Nat.two_pow_pos _)
        _ = 2 ^ (num.log2 + 1 + (-scale).toNat) := (Nat.pow_add ..).symm
        _ ≤ 2 ^ (den.log2 + scale.toNat + 54) := Nat.pow_le_pow_right (by decide) (by omega)
        _ = 2 ^ den.log2 * 2 ^ scale.toNat * 2 ^ 54 := by rw [Nat.pow_add, Nat.pow_add]
        _ ≤ den * 2 ^ scale.toNat * 2 ^ 54 :=
          Nat.mul_le_mul_right _ (Nat.mul_le_mul_right _ hdenle)
        _ = (den <<< scale.toNat) <<< 54 := by rw [Nat.shiftLeft_eq, Nat.shiftLeft_eq]

theorem le_magnitude_nearest (negative : Bool) (hnum : num ≠ 0)
    (h : den.log2 + places ≤ num.log2) (hplaces : places ≤ 1023) :
    (places + 1021) <<< 52 ≤ (nearest negative num den).magnitude := by
  have hinfinity : infinity < 1 <<< 63 := by decide
  unfold nearest
  rw [if_neg hnum, magnitude_ofParts negative
    (Nat.lt_of_le_of_lt (magnitudeAt_le_infinity ..) hinfinity)]
  refine le_magnitudeAt ?_ (by omega)
  split <;> omega

theorem magnitude_nearest_one_le (negative : Bool) (h : num < UInt64.size) :
    (nearest negative num 1).magnitude ≤ (63 + 1026) <<< 52 := by
  have hlog : num.log2 ≤ 63 := log2_le_of_lt h
  exact magnitude_nearest_le negative (by decide) (Nat.le_trans hlog (Nat.le_add_left ..))

end Nearest

theorem isFinite_of_magnitude_le {x : Double} {places : Nat}
    (h : x.magnitude ≤ (places + 1026) <<< 52) (hplaces : places ≤ 1000) :
    x.isFinite = true := by
  have hinfinity : infinity = 2047 * 2 ^ 52 := rfl
  rw [Nat.shiftLeft_eq] at h
  rw [isFinite_iff_magnitude]
  omega

theorem isFinite_ofInt {n : Int} (h : n.natAbs < UInt64.size) : (ofInt n).isFinite = true :=
  isFinite_of_magnitude_le (magnitude_nearest_one_le _ h) (by decide)

section Ratio

variable {x y : Double} {a b places : Nat}

theorem ratio_snd (x : Double) : x.ratio.2 ≠ 0 ∧ x.ratio.2.log2 = (-x.scale).toNat := by
  have hpow : x.ratio.2 = 2 ^ (-x.scale).toNat := Nat.one_shiftLeft _
  rw [hpow, Nat.log2_two_pow]
  exact ⟨Nat.ne_of_gt (Nat.two_pow_pos _), rfl⟩

theorem log2_ratio_le (h : x.magnitude ≤ (places + 1026) <<< 52) :
    x.ratio.1.log2 ≤ x.ratio.2.log2 + (places + 4) := by
  have hfield : x.exponentField ≤ places + 1026 := by
    rw [Nat.shiftLeft_eq] at h
    rw [exponentField, Nat.shiftRight_eq_div_pow]
    omega
  have hscale : x.scale ≤ places - 49 := by
    rw [scale]
    omega
  have hsignificand : x.significand.log2 ≤ 52 := by
    have hfraction : x.fraction < 1 <<< 52 := Nat.mod_lt _ (by decide)
    refine log2_le_of_lt ?_
    rw [significand]
    split <;> omega
  have hnum := log2_mul_le x.significand (2 ^ x.scale.toNat)
  rw [Nat.log2_two_pow, ← Nat.shiftLeft_eq] at hnum
  rw [x.ratio_snd.2]
  show (x.significand <<< x.scale.toNat).log2 ≤ _
  omega

theorem le_log2_ratio (h : (places + 1021) <<< 52 ≤ x.magnitude) :
    x.ratio.1 ≠ 0 ∧ x.ratio.2.log2 + places ≤ x.ratio.1.log2 + 2 := by
  have hfield : places + 1021 ≤ x.exponentField := by
    rw [Nat.shiftLeft_eq] at h
    rw [exponentField, Nat.shiftRight_eq_div_pow]
    exact (Nat.le_div_iff_mul_le (Nat.two_pow_pos 52)).2 h
  have hscale : places - 54 ≤ x.scale := by
    rw [scale]
    omega
  have hle : 2 ^ 52 ≤ x.significand := by
    have hone : 1 <<< 52 = 2 ^ 52 := rfl
    rw [significand, if_neg (by omega)]
    omega
  have hne : x.significand ≠ 0 := by omega
  have hsignificand : 52 ≤ x.significand.log2 := (Nat.le_log2 hne).2 hle
  have hpow : 2 ^ x.scale.toNat ≠ 0 := Nat.ne_of_gt (Nat.two_pow_pos _)
  have hnum := le_log2_mul hne hpow
  rw [Nat.log2_two_pow] at hnum
  have hratio : x.ratio.1 = x.significand * 2 ^ x.scale.toNat := Nat.shiftLeft_eq ..
  rw [x.ratio_snd.2, hratio]
  exact ⟨Nat.mul_ne_zero hne hpow, by omega⟩

theorem magnitude_divAbs_le (hx : x.magnitude ≤ (a + 1026) <<< 52)
    (hy : (b + 1021) <<< 52 ≤ y.magnitude) (h : a + 7 ≤ b + places) :
    (divAbs x y).magnitude ≤ (places + 1026) <<< 52 := by
  have hratio := log2_ratio_le hx
  obtain ⟨hne, hdivisor⟩ := le_log2_ratio hy
  have hnum := log2_mul_le x.ratio.1 y.ratio.2
  have hden := le_log2_mul x.ratio_snd.1 hne
  refine magnitude_nearest_le false (Nat.mul_ne_zero x.ratio_snd.1 hne) ?_
  omega

end Ratio

end DynSeq.Double
