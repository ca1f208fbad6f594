import EntityGraph.Number.Binary64

/-!
# Rounding never gives a NaN

`Binary64.ofRatio` rounds a ratio to the nearest binary64 number. Its exponent is estimated
from the logarithms of numerator and denominator, lowered by one when the estimate leaves the
quotient below `2 ^ 52`, and clamped at the subnormal exponent; at that exponent the scaled
quotient is below `2 ^ 53` (`Binary64.scaled_lt_roundingExponent`), so the rounded significand
is at most `2 ^ 53` and, after its carry, fits the 52 bits of the fraction field. The pattern
built from such fields keeps its exponent field below `2047` or is an infinity, never a NaN
(`Binary64.isNaN_ofRatio`); in particular no integer converts to a NaN (`Binary64.isNaN_ofInt`).
-/

namespace EntityGraph

namespace Binary64

/-! ## Patterns built from fields -/

/-- The bits of a pattern built from fields that fit. -/
theorem toNat_bits_ofFields (neg : Bool) {e f : Nat} (he : e < 2048) (hf : f < 2 ^ 52) :
    (ofFields neg e f).bits.toNat = (if neg then 2 ^ 63 else 0) + e * 2 ^ 52 + f := by
  apply UInt64.toNat_ofNat_of_lt'
  split <;> simp only [UInt64.size] <;> omega

theorem exponentField_ofFields (neg : Bool) {e f : Nat} (he : e < 2048) (hf : f < 2 ^ 52) :
    (ofFields neg e f).exponentField = e := by
  have hbits := toNat_bits_ofFields neg he hf
  simp only [exponentField, UInt64.toNat_and, UInt64.toNat_shiftRight, hbits,
    Nat.shiftRight_eq_div_pow]
  rw [show (2047 : UInt64).toNat = 2 ^ 11 - 1 from rfl, Nat.and_two_pow_sub_one_eq_mod]
  split <;> simp <;> omega

/-! ## The exponent of the rounding -/

/-- Raising the exponent only shrinks the scaled quotient. -/
theorem scaled_lt_of_le {num den k : Nat} {e e' : Int} (hle : e ≤ e')
    (h : num * 2 ^ (-e).toNat < k * (den * 2 ^ e.toNat)) :
    num * 2 ^ (-e').toNat < k * (den * 2 ^ e'.toNat) := by
  have h1 : num * 2 ^ (-e').toNat ≤ num * 2 ^ (-e).toNat :=
    Nat.mul_le_mul_left _ (Nat.pow_le_pow_right (by omega) (by omega))
  have h2 : k * (den * 2 ^ e.toNat) ≤ k * (den * 2 ^ e'.toNat) :=
    Nat.mul_le_mul_left _ (Nat.mul_le_mul_left _ (Nat.pow_le_pow_right (by omega) (by omega)))
  omega

/-- At the first estimate of the exponent the scaled quotient is below `2 ^ 53`. -/
theorem scaled_lt_first {num den : Nat} (hd : den ≠ 0) :
    let e0 : Int := (num.log2 : Int) - den.log2 - 52
    num * 2 ^ (-e0).toNat < 2 ^ 53 * (den * 2 ^ e0.toNat) := by
  intro e0
  have ha : num < 2 ^ (num.log2 + 1) := Nat.lt_log2_self
  have hb : 2 ^ den.log2 ≤ den := Nat.log2_self_le hd
  rcases Int.lt_or_le e0 0 with hneg | hpos
  · -- the quotient is scaled up by `2 ^ -e0`
    have hk : e0.toNat = 0 := by omega
    have hka : num.log2 + 1 + (-e0).toNat = 53 + den.log2 := by omega
    rw [hk, Nat.pow_zero, Nat.mul_one]
    calc num * 2 ^ (-e0).toNat < 2 ^ (num.log2 + 1) * 2 ^ (-e0).toNat :=
          Nat.mul_lt_mul_of_pos_right ha (Nat.two_pow_pos _)
      _ = 2 ^ 53 * 2 ^ den.log2 := by rw [← Nat.pow_add, hka, Nat.pow_add]
      _ ≤ 2 ^ 53 * den := Nat.mul_le_mul_left _ hb

  · -- the quotient is scaled down by `2 ^ e0`
    have hk : (-e0).toNat = 0 := by omega
    have hka : num.log2 + 1 = 53 + den.log2 + e0.toNat := by omega
    rw [hk, Nat.pow_zero, Nat.mul_one]
    calc num < 2 ^ (num.log2 + 1) := ha
      _ = 2 ^ 53 * (2 ^ den.log2 * 2 ^ e0.toNat) := by
        rw [hka, Nat.pow_add, Nat.pow_add, Nat.mul_assoc]
      _ ≤ 2 ^ 53 * (den * 2 ^ e0.toNat) :=
        Nat.mul_le_mul_left _ (Nat.mul_le_mul_right _ hb)

/-- Lowering the exponent by one doubles a quotient below `2 ^ 52`, which stays below `2 ^ 53`. -/
theorem scaled_lt_pred {num den : Nat} {e : Int}
    (h : num * 2 ^ (-e).toNat < 2 ^ 52 * (den * 2 ^ e.toNat)) :
    num * 2 ^ (-(e - 1)).toNat < 2 ^ 53 * (den * 2 ^ (e - 1).toNat) := by
  rcases Int.lt_or_le e 1 with hle | hpos
  · have hn : (-(e - 1)).toNat = (-e).toNat + 1 := by omega
    have hd : (e - 1).toNat = e.toNat := by omega
    rw [hn, hd, Nat.pow_succ, show 2 ^ 53 = 2 ^ 52 * 2 from rfl]
    calc num * (2 ^ (-e).toNat * 2) = num * 2 ^ (-e).toNat * 2 := by ac_rfl
      _ < 2 ^ 52 * (den * 2 ^ e.toNat) * 2 := Nat.mul_lt_mul_of_pos_right h (by decide)
      _ = 2 ^ 52 * 2 * (den * 2 ^ e.toNat) := by ac_rfl
  · have hn : (-(e - 1)).toNat = (-e).toNat := by omega
    have hd : e.toNat = (e - 1).toNat + 1 := by omega
    rw [hd, Nat.pow_succ] at h
    rw [hn, show 2 ^ 53 = 2 ^ 52 * 2 from rfl]
    calc num * 2 ^ (-e).toNat < 2 ^ 52 * (den * (2 ^ (e - 1).toNat * 2)) := h
      _ = 2 ^ 52 * 2 * (den * 2 ^ (e - 1).toNat) := by ac_rfl

/-- The exponent of the rounding is the first estimate, lowered by one when its quotient is
below `2 ^ 52`, and then clamped below at `-1074`. -/
theorem roundingExponent_eq {num den : Nat} (hd : den ≠ 0) :
    ∃ e1 : Int, ((e1 = (num.log2 : Int) - den.log2 - 52 - 1 ∧
        num * 2 ^ (-((num.log2 : Int) - den.log2 - 52)).toNat <
          2 ^ 52 * (den * 2 ^ ((num.log2 : Int) - den.log2 - 52).toNat)) ∨
      e1 = (num.log2 : Int) - den.log2 - 52) ∧
    roundingExponent num den = if e1 < -1074 then -1074 else e1 := by
  unfold roundingExponent
  simp only
  split
  · next hlt =>
    refine ⟨_, Or.inl ⟨rfl, ?_⟩, rfl⟩
    exact (Nat.div_lt_iff_lt_mul (Nat.mul_pos (Nat.pos_of_ne_zero hd) (Nat.two_pow_pos _))).mp hlt
  · exact ⟨_, Or.inr rfl, rfl⟩

/-- At the exponent of the rounding, the scaled quotient is below `2 ^ 53`. -/
theorem scaled_lt_roundingExponent {num den : Nat} (hd : den ≠ 0) :
    num * 2 ^ (-roundingExponent num den).toNat <
      2 ^ 53 * (den * 2 ^ (roundingExponent num den).toNat) := by
  obtain ⟨e1, hcase, hround⟩ := roundingExponent_eq hd
  have h1 : num * 2 ^ (-e1).toNat < 2 ^ 53 * (den * 2 ^ e1.toNat) := by
    rcases hcase with ⟨rfl, hlt⟩ | rfl
    · exact scaled_lt_pred hlt
    · exact scaled_lt_first hd
  rw [hround]
  exact scaled_lt_of_le (by split <;> omega) h1

/-! ## No NaN -/

/-- Rounding a quotient below `k` gives at most `k`. -/
theorem divRoundEven_le {n d k : Nat} (h : n < k * d) : divRoundEven n d ≤ k := by
  have hd : 0 < d := Nat.pos_of_ne_zero fun h0 => by simp [h0] at h
  have hq : n / d < k := (Nat.div_lt_iff_lt_mul hd).mpr h
  unfold divRoundEven
  simp only
  split <;> omega

theorem isNaN_ofFields (neg : Bool) {e f : Nat} (he : e < 2047) (hf : f < 2 ^ 52) :
    (ofFields neg e f).isNaN = false := by
  simp only [isNaN, exponentField_ofFields neg (by omega : e < 2048) hf]
  simp only [beq_iff_eq, Bool.and_eq_false_imp]
  omega

theorem isNaN_infinity (neg : Bool) : (infinity neg).isNaN = false := by
  cases neg <;> decide

/-- Rounding never gives a NaN. -/
theorem isNaN_ofRatio (neg : Bool) (num den : Nat) : (ofRatio neg num den).isNaN = false := by
  unfold ofRatio
  split
  · exact isNaN_ofFields neg (by omega) (by omega)
  · next hz =>
    have hd : den ≠ 0 := by simp at hz; omega
    have hm := divRoundEven_le (@scaled_lt_roundingExponent num den hd)
    simp only
    generalize divRoundEven _ _ = m at hm ⊢
    generalize roundingExponent num den = e
    -- the carry of a significand rounded up to `2 ^ 53` leaves it below `2 ^ 53`
    have hcarry : (if (m == 2 ^ 53) = true then (2 ^ 52, e + 1) else (m, e)).1 < 2 ^ 53 := by
      split <;> simp_all <;> omega
    generalize (if (m == 2 ^ 53) = true then (2 ^ 52, e + 1) else (m, e)) = p at hcarry ⊢
    split
    · exact isNaN_ofFields neg (by omega) (by omega)
    · split
      · exact isNaN_infinity neg
      · exact isNaN_ofFields neg (by omega) (by omega)

/-- No integer converts to a NaN. -/
theorem isNaN_ofInt (n : Int) : (ofInt n).isNaN = false := isNaN_ofRatio _ _ _

end Binary64

end EntityGraph
