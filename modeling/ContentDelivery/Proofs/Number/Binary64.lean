/-
ContentDelivery.Proofs.Number.Binary64 — what rounding keeps, and what stays finite.

A magnitude `m * 2 ^ k` units with a significand below `2 ^ 53` is its
own rounding (`nearestBits_of_representable`), and its bits are read as
that magnitude again (`units_of_bits`). So every whole number below
`2 ^ 53` is a floating-point number exactly, in whatever fraction it
comes (`isWhole_ofRatio`).

Any other magnitude is rounded to a significand of 53 binary places
(`exists_significand_of_nearestBits`), so a quotient below `2 ^ 1023` has
a finite number near it (`isFinite_ofRatio`). This is coarse by one
binary place, which does no harm where it is used: whole numbers of 64
bits are far below it, and a finite number that is divided by a power of
ten loses more than that.
-/
import ContentDelivery.Number.Binary64
import Mathlib.Tactic.Ring

namespace ContentDelivery

/-! ## Rounding quotients -/

theorem roundHalfEven_mul (m : Nat) {d : Nat} (pos : 0 < d) : roundHalfEven (m * d) d = m := by
  simp [roundHalfEven, Nat.mul_div_cancel m pos, pos]

theorem div_le_roundHalfEven (n d : Nat) : n / d ≤ roundHalfEven n d := by
  unfold roundHalfEven
  simp only
  split
  · omega
  · split <;> omega

theorem roundHalfEven_le (n d : Nat) : roundHalfEven n d ≤ n / d + 1 := by
  unfold roundHalfEven
  have parity : n / d % 2 < 2 := Nat.mod_lt _ (by decide)
  simp only
  split
  · omega
  · split <;> omega

namespace Binary64

/-! ## Units -/

/-- The number of binary places behind the point is kept as a variable: nothing here should ever
compute with `2 ^ 1074`. -/
theorem exists_places : ∃ places, places = 1074 ∧ unitsPerOne = 2 ^ places := by
  unfold unitsPerOne
  generalize 1074 = places
  exact ⟨places, rfl, Nat.one_shiftLeft places⟩

theorem unitsPerOne_pos : 0 < unitsPerOne := by
  obtain ⟨places, -, one⟩ := exists_places
  rw [one]
  exact Nat.two_pow_pos places

theorem infinityBits_eq : infinityBits = 2047 * 2 ^ 52 := Nat.shiftLeft_eq 2047 52

/-- The bits of a significand and its last place, read field by field. The significand may be the
next power of two, to which rounding comes. -/
theorem units_of_bits {x : Binary64} {m k : Nat} (bits : x.bits.toNat = k * 2 ^ 52 + m)
    (m_le : m ≤ 2 ^ 53) (normal : 2 ^ 52 ≤ m ∨ k = 0) (k_le : k ≤ 2045) :
    x.units = m * 2 ^ k := by
  unfold units exponentField fractionField
  rw [Nat.shiftRight_eq_div_pow, Nat.one_shiftLeft, bits, Nat.shiftLeft_eq]
  rcases Nat.lt_or_ge m (2 ^ 52) with subnormal | normal'
  · obtain rfl := normal.resolve_left (Nat.not_le_of_lt subnormal)
    rw [if_pos (by omega), Nat.pow_zero]
    omega
  · rw [if_neg (by omega)]
    rcases Nat.lt_or_eq_of_le m_le with m_lt | rfl
    · have exponent : (k * 2 ^ 52 + m) / 2 ^ 52 % 2048 - 1 = k := by omega
      have significand : 2 ^ 52 + (k * 2 ^ 52 + m) % 2 ^ 52 = m := by omega
      rw [exponent, significand]
    · have exponent : (k * 2 ^ 52 + 2 ^ 53) / 2 ^ 52 % 2048 - 1 = k + 1 := by omega
      have significand : 2 ^ 52 + (k * 2 ^ 52 + 2 ^ 53) % 2 ^ 52 = 2 ^ 52 := by omega
      have places : 52 + (k + 1) = 53 + k := by omega
      rw [exponent, significand, ← Nat.pow_add, places, Nat.pow_add]

theorem isNegative_iff {x : Binary64} : x.isNegative = true ↔ 2 ^ 63 ≤ x.bits.toNat := by
  rw [isNegative, decide_eq_true_iff, Nat.one_shiftLeft]

theorem isFinite_iff {x : Binary64} : x.isFinite = true ↔ x.bits.toNat % 2 ^ 63 < infinityBits := by
  rw [isFinite, decide_eq_true_iff, exponentField, Nat.shiftRight_eq_div_pow, infinityBits_eq]
  omega

/-- A magnitude has 53 binary places, the last of them as its exponent says. -/
theorem units_lt (x : Binary64) : x.units < 2 ^ (53 + (x.exponentField - 1)) := by
  have fraction_lt : x.fractionField < 2 ^ 52 := by
    rw [fractionField, Nat.one_shiftLeft]
    exact Nat.mod_lt _ (Nat.two_pow_pos 52)
  unfold units
  split
  · next subnormal =>
    rw [subnormal]
    exact fraction_lt.trans (by decide)
  · rw [Nat.one_shiftLeft, Nat.shiftLeft_eq, Nat.pow_add]
    exact Nat.mul_lt_mul_of_pos_right (by omega) (Nat.two_pow_pos _)

theorem isFinite_withSign (negative : Bool) (x : Binary64) :
    (x.withSign negative).isFinite = x.isFinite := by
  have bits : (x.withSign negative).bits.toNat % 2 ^ 63 = x.bits.toNat % 2 ^ 63 := by
    unfold withSign
    rw [UInt64.toNat_ofNat', Nat.one_shiftLeft]
    split <;> omega
  rw [Bool.eq_iff_iff, isFinite_iff, isFinite_iff, bits]

/-! ## Nearest numbers -/

theorem toNat_bits_ofRatio (negative : Bool) (num den : Nat) :
    (ofRatio negative num den).bits.toNat =
      (if negative then 2 ^ 63 else 0) + min (nearestBits num den) infinityBits := by
  have bound : infinityBits < 2 ^ 63 := by
    rw [infinityBits_eq]
    decide
  unfold ofRatio
  rw [UInt64.toNat_ofNat', Nat.one_shiftLeft, Nat.mod_eq_of_lt]
  split <;> omega

/-- A significand that rounding came to is there, as long as its last place is that of a number. -/
theorem bits_ofRatio {num den m k : Nat} (nearest : nearestBits num den = k * 2 ^ 52 + m)
    (m_le : m ≤ 2 ^ 53) (k_le : k ≤ 2045) :
    (ofRatio false num den).bits.toNat = k * 2 ^ 52 + m := by
  have up_to_infinity : k * 2 ^ 52 + m ≤ infinityBits := by
    rw [infinityBits_eq]
    omega
  rw [toNat_bits_ofRatio, nearest, Nat.min_eq_left up_to_infinity]
  exact Nat.zero_add _

theorem nearestBits_eq (num den : Nat) :
    nearestBits num den =
      (Nat.log2 (num * unitsPerOne / den) - 52) * 2 ^ 52 +
        roundHalfEven (num * unitsPerOne)
          (den * 2 ^ (Nat.log2 (num * unitsPerOne / den) - 52)) := by
  rw [← Nat.shiftLeft_eq, ← Nat.shiftLeft_eq]
  rfl

/-- A magnitude of at most 53 binary places is not rounded. -/
theorem nearestBits_of_representable {num den m k : Nat} (pos : 0 < den) (m_lt : m < 2 ^ 53)
    (normal : 2 ^ 52 ≤ m ∨ k = 0) (value : num * unitsPerOne = m * 2 ^ k * den) :
    nearestBits num den = k * 2 ^ 52 + m := by
  have places : Nat.log2 (m * 2 ^ k) - 52 = k := by
    rcases normal with large | rfl
    · have nonzero : m * 2 ^ k ≠ 0 := Nat.mul_ne_zero (by omega) (Nat.two_pow_pos k).ne'
      have log2_eq : Nat.log2 (m * 2 ^ k) = 52 + k := by
        rw [Nat.log2_eq_iff nonzero, Nat.pow_add, Nat.add_right_comm, Nat.pow_add]
        exact ⟨Nat.mul_le_mul_right _ large, Nat.mul_lt_mul_of_pos_right m_lt (Nat.two_pow_pos k)⟩
      omega
    · rw [Nat.pow_zero, Nat.mul_one]
      rcases Nat.eq_zero_or_pos m with rfl | m_pos
      · rfl
      · have := (Nat.log2_lt m_pos.ne').mpr m_lt
        omega
  have scaled : m * 2 ^ k * den = m * (den * 2 ^ k) := by ring
  rw [nearestBits_eq, value, Nat.mul_div_cancel _ pos, places, scaled,
    roundHalfEven_mul m (Nat.mul_pos pos (Nat.two_pow_pos k))]

/-- Every magnitude is rounded to a significand of 53 binary places; it may come to the next power
of two. -/
theorem exists_significand_of_nearestBits (num den : Nat) :
    ∃ m k, k = Nat.log2 (num * unitsPerOne / den) - 52 ∧
      nearestBits num den = k * 2 ^ 52 + m ∧
      num * unitsPerOne / den / 2 ^ k ≤ m ∧ m ≤ 2 ^ 53 := by
  refine ⟨_, _, rfl, nearestBits_eq num den, ?_, ?_⟩
  · rw [Nat.div_div_eq_div_mul]
    exact div_le_roundHalfEven _ _
  · generalize num * unitsPerOne = n
    have quotient_lt : n / den < 2 ^ (Nat.log2 (n / den) - 52 + 53) :=
      Nat.lt_log2_self.trans_le (Nat.pow_le_pow_right (by decide) (by omega))
    generalize Nat.log2 (n / den) - 52 = k at quotient_lt ⊢
    have significand_lt : n / (den * 2 ^ k) < 2 ^ 53 := by
      rw [← Nat.div_div_eq_div_mul, Nat.div_lt_iff_lt_mul (Nat.two_pow_pos k), ← Nat.pow_add,
        Nat.add_comm]
      exact quotient_lt
    exact (roundHalfEven_le n (den * 2 ^ k)).trans significand_lt

theorem isFinite_ofRatio (negative : Bool) {num den places : Nat}
    (small : num * unitsPerOne / den < 2 ^ places) (few : places ≤ 2097) :
    (ofRatio negative num den).isFinite = true := by
  have log2_le : Nat.log2 (num * unitsPerOne / den) ≤ 2096 := by
    rcases Nat.eq_zero_or_pos (num * unitsPerOne / den) with zero | pos
    · rw [zero]
      decide
    · have := (Nat.log2_lt pos.ne').mpr small
      omega
  obtain ⟨m, k, k_eq, nearest, -, m_le⟩ := exists_significand_of_nearestBits num den
  have below_infinity : k * 2 ^ 52 + m < infinityBits := by
    rw [infinityBits_eq]
    omega
  rw [isFinite_iff, toNat_bits_ofRatio, nearest, Nat.min_eq_left below_infinity.le]
  rw [infinityBits_eq] at below_infinity ⊢
  split <;> omega

/-! ## Whole numbers -/

/-- The number is a whole one, without a sign. -/
structure IsWhole (n : Nat) (x : Binary64) : Prop where
  units : x.units = n * unitsPerOne
  finite : x.isFinite = true
  nonnegative : x.isNegative = false

/-- Whole numbers below `2 ^ 53` have at most 53 binary places. -/
theorem exists_significand {n : Nat} (small : n < 2 ^ 53) :
    ∃ m k, m < 2 ^ 53 ∧ (2 ^ 52 ≤ m ∨ k = 0) ∧ k ≤ 2045 ∧ n * unitsPerOne = m * 2 ^ k := by
  rcases Nat.eq_zero_or_pos n with rfl | pos
  · exact ⟨0, 0, by decide, .inr rfl, by decide, by rw [Nat.zero_mul, Nat.zero_mul]⟩
  · obtain ⟨places, many, one⟩ := exists_places
    have log2_lt : n.log2 < 53 := (Nat.log2_lt pos.ne').mpr small
    obtain ⟨zeros, zeros_eq⟩ := Nat.exists_eq_add_of_le (Nat.le_of_lt_succ log2_lt)
    obtain ⟨k, k_eq⟩ := Nat.exists_eq_add_of_le (show zeros ≤ places by omega)
    refine ⟨n * 2 ^ zeros, k, ?_, .inl ?_, by omega, ?_⟩
    · have upper : 53 = n.log2 + 1 + zeros := by omega
      rw [upper, Nat.pow_add]
      exact Nat.mul_lt_mul_of_pos_right Nat.lt_log2_self (Nat.two_pow_pos zeros)
    · rw [zeros_eq, Nat.pow_add]
      exact Nat.mul_le_mul_right _ (Nat.log2_self_le pos.ne')
    · rw [one, k_eq, Nat.pow_add, Nat.mul_assoc]

theorem isWhole_ofRatio {n num den : Nat} (small : n < 2 ^ 53) (pos : 0 < den)
    (value : num = n * den) : IsWhole n (ofRatio false num den) := by
  obtain ⟨m, k, m_lt, normal, k_le, represented⟩ := exists_significand small
  have scaled : num * unitsPerOne = m * 2 ^ k * den := by
    rw [value, ← represented, Nat.mul_right_comm]
  have nearest := nearestBits_of_representable pos m_lt normal scaled
  have bits := bits_ofRatio nearest m_lt.le k_le
  constructor
  · rw [represented, units_of_bits bits m_lt.le normal k_le]
  · rw [isFinite_iff, bits, infinityBits_eq]
    omega
  · rw [← Bool.not_eq_true, isNegative_iff, bits]
    omega

theorem isWhole_ofNat {n : Nat} (small : n < 2 ^ 53) : IsWhole n (ofNat n) :=
  isWhole_ofRatio small Nat.one_pos (Nat.mul_one n).symm

theorem IsWhole.addMagnitudes {m n : Nat} {x y : Binary64} (first : IsWhole m x)
    (second : IsWhole n y) (small : m + n < 2 ^ 53) : IsWhole (m + n) (x.addMagnitudes y) := by
  refine isWhole_ofRatio small unitsPerOne_pos ?_
  rw [first.units, second.units, Nat.add_mul]

theorem IsWhole.divMagnitudes_of_zero {n : Nat} {x y : Binary64} (zero : IsWhole 0 x)
    (divisor : IsWhole n y) (pos : 0 < n) : IsWhole 0 (x.divMagnitudes y) := by
  refine isWhole_ofRatio (by decide) ?_ ?_
  · rw [divisor.units]
    exact Nat.mul_pos pos unitsPerOne_pos
  · rw [zero.units, Nat.zero_mul, Nat.zero_mul]

/-! ## Finite numbers -/

theorem isFinite_ofInt {i : Int} {places : Nat} (small : i.natAbs < 2 ^ places)
    (few : places ≤ 1023) : (ofInt i).isFinite = true := by
  obtain ⟨behind, many, one⟩ := exists_places
  have quotient_lt : i.natAbs * unitsPerOne / 1 < 2 ^ (places + behind) := by
    rw [Nat.div_one, one, Nat.pow_add]
    exact Nat.mul_lt_mul_of_pos_right small (Nat.two_pow_pos behind)
  exact isFinite_ofRatio _ quotient_lt (by omega)

/-- What is at least two is not rounded below two. -/
theorem two_le_units_ofNat {n places : Nat} (large : 2 ≤ n) (small : n < 2 ^ places)
    (few : places ≤ 1024) : 2 * unitsPerOne ≤ (ofNat n).units := by
  obtain ⟨behind, many, one⟩ := exists_places
  obtain ⟨m, k, k_eq, nearest, le_m, m_le⟩ := exists_significand_of_nearestBits n 1
  rw [Nat.div_one, one] at k_eq le_m
  have nonzero : n * 2 ^ behind ≠ 0 := Nat.mul_ne_zero (by omega) (Nat.two_pow_pos behind).ne'
  have log2_lt : Nat.log2 (n * 2 ^ behind) < places + behind := by
    rw [Nat.log2_lt nonzero, Nat.pow_add]
    exact Nat.mul_lt_mul_of_pos_right small (Nat.two_pow_pos behind)
  have le_log2 : 1 + behind ≤ Nat.log2 (n * 2 ^ behind) := by
    rw [Nat.le_log2 nonzero, Nat.pow_add]
    exact Nat.mul_le_mul_right _ large
  have significand_le : 2 ^ 52 ≤ m := by
    refine le_trans ((Nat.le_div_iff_mul_le (Nat.two_pow_pos k)).mpr ?_) le_m
    rw [← Nat.pow_add, ← Nat.le_log2 nonzero]
    omega
  have bits := bits_ofRatio nearest m_le (by omega)
  rw [ofNat, units_of_bits bits m_le (.inl significand_le) (by omega), one]
  calc 2 * 2 ^ behind = 2 ^ (1 + behind) := (Nat.pow_add 2 1 behind).symm
    _ ≤ 2 ^ (52 + k) := Nat.pow_le_pow_right (by decide) (by omega)
    _ = 2 ^ 52 * 2 ^ k := Nat.pow_add 2 52 k
    _ ≤ m * 2 ^ k := Nat.mul_le_mul_right _ significand_le

theorem two_le_units_powerOfTen {k : Nat} (pos : 0 < k) (near : k ≤ maxPowerOfTen) :
    2 * unitsPerOne ≤ (powerOfTen k).units := by
  have largest : 10 ^ maxPowerOfTen < 2 ^ 1024 := by decide +kernel
  have two_le : 2 ≤ 10 ^ k := le_trans (by decide) (Nat.pow_le_pow_right (by decide) pos)
  have power_le : 10 ^ k ≤ 10 ^ maxPowerOfTen := Nat.pow_le_pow_right (by decide) near
  exact two_le_units_ofNat two_le (power_le.trans_lt largest) le_rfl

/-- Division by two or more stays below the largest number, however coarsely that is told. -/
theorem isFinite_divMagnitudes {x y : Binary64} (finite : x.isFinite = true)
    (large : 2 * unitsPerOne ≤ y.units) : (x.divMagnitudes y).isFinite = true := by
  have exponent_lt : x.exponentField < 2047 := by simpa [isFinite] using finite
  have quotient_lt : x.units * unitsPerOne / y.units < 2 ^ (52 + (x.exponentField - 1)) := by
    calc x.units * unitsPerOne / y.units
        ≤ x.units * unitsPerOne / (2 * unitsPerOne) :=
          Nat.div_le_div_left large (Nat.mul_pos (by decide) unitsPerOne_pos)
      _ = x.units / 2 := Nat.mul_div_mul_right _ _ unitsPerOne_pos
      _ < 2 ^ (52 + (x.exponentField - 1)) := by
        rw [Nat.div_lt_iff_lt_mul (by decide), ← Nat.pow_succ]
        exact x.units_lt.trans_le (Nat.pow_le_pow_right (by decide) (by omega))
  exact isFinite_ofRatio _ quotient_lt (by omega)

/-- Scaling never leaves the finite numbers: it fails rather. -/
theorem isFinite_of_scaleByTen {x y : Binary64} {exponent : Int} (finite : x.isFinite = true)
    (scaled : x.scaleByTen exponent = some y) : y.isFinite = true := by
  fun_induction scaleByTen x exponent with
  | case1 x exponent near nonneg product product_finite =>
    rw [← Option.some.inj scaled]
    exact product_finite
  | case2 | case5 => cases scaled
  | case3 x exponent near negative =>
    cases scaled
    exact isFinite_divMagnitudes finite (two_le_units_powerOfTen (by omega) near)
  | case4 =>
    cases scaled
    exact finite
  | case6 x exponent far nonzero negative ih =>
    have divided := isFinite_divMagnitudes finite (two_le_units_powerOfTen (by decide) le_rfl)
    exact ih divided scaled

end Binary64

end ContentDelivery
