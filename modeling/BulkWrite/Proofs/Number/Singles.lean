import BulkWrite.Proofs.Number.Separation

/-!
# The decimals of 32-bit numbers

A number of the 32-bit format is next to all that is very near to the decimal which is found for it
(`FoundFor.roundsTo`). Either the grid of the decimal is finer than the unit of the number, and the
decimal lies well inside the interval of the number, or it has few digits, and such a decimal keeps
away from the ends of the interval (`separation`) or is one that is read exactly. Two numbers are an
exception.
-/

namespace BulkWrite.Decimal

variable {m n : Nat} {e k : Int}

/-! ## Grids and units -/

/-- Comparisons of multiples of powers of ten and of two, in whole numbers. -/
lemma ten_le_two_iff {a b : Nat} :
    a * Nat.pow 10 k.toNat * Nat.pow 2 (-e).toNat ≤ b * Nat.pow 2 e.toNat * Nat.pow 10 (-k).toNat ↔
      (a * 10 ^ k : ℚ) ≤ b * 2 ^ e := by
  have hten : (0 : ℚ) < 10 ^ (-k).toNat := by positivity
  have htwo : (0 : ℚ) < 2 ^ (-e).toNat := by positivity
  rw [ten_zpow_eq, Format.two_zpow_eq, mul_div_assoc', mul_div_assoc', div_le_div_iff₀ hten htwo]
  simp only [Nat.pow_eq]
  exact_mod_cast Iff.rfl

lemma two_le_ten_iff {a b : Nat} :
    b * Nat.pow 2 e.toNat * Nat.pow 10 (-k).toNat ≤ a * Nat.pow 10 k.toNat * Nat.pow 2 (-e).toNat ↔
      (b * 2 ^ e : ℚ) ≤ a * 10 ^ k := by
  have hten : (0 : ℚ) < 10 ^ (-k).toNat := by positivity
  have htwo : (0 : ℚ) < 2 ^ (-e).toNat := by positivity
  rw [ten_zpow_eq, Format.two_zpow_eq, mul_div_assoc', mul_div_assoc', div_le_div_iff₀ htwo hten]
  simp only [Nat.pow_eq]
  exact_mod_cast Iff.rfl

/-- The exponent of the coarsest grid that is finer than `2 ^ e`. -/
def fineExponent (e : Int) : Int :=
  (e * 1233 - 1) / 4096

/-- It is finer by some margin, and the next one is not finer. -/
lemma fineExponent_spec (he : -149 ≤ e) (he' : e ≤ 104) :
    (200 * 10 ^ fineExponent e : ℚ) ≤ 199 * 2 ^ e ∧
      (2 : ℚ) ^ e ≤ 10 ^ (fineExponent e + 1) := by
  have hall : ∀ i < 254, ∀ e : Int, e = (i : Nat) - 149 →
      200 * Nat.pow 10 (fineExponent e).toNat * Nat.pow 2 (-e).toNat ≤
          199 * Nat.pow 2 e.toNat * Nat.pow 10 (-fineExponent e).toNat ∧
        1 * Nat.pow 2 e.toNat * Nat.pow 10 (-(fineExponent e + 1)).toNat ≤
          1 * Nat.pow 10 (fineExponent e + 1).toNat * Nat.pow 2 (-e).toNat := by
    simp only [forall_eq]
    decide +kernel
  obtain ⟨hfine, hcoarse⟩ := hall (e + 149).toNat (by omega) e (by omega)
  have hcoarse := two_le_ten_iff.mp hcoarse
  rw [Nat.cast_one, one_mul, one_mul] at hcoarse
  exact ⟨by exact_mod_cast ten_le_two_iff.mp hfine, hcoarse⟩

/-! ## The decimal of a number -/

/-- The decimal `n · 10 ^ k` that a search finds for a number of the 32-bit format. -/
structure FoundFor (n : Nat) (k : Int) (m : Nat) (e : Int) : Prop where
  number : Format.single.IsNumber m e
  pos : 0 < m
  rounds : RoundsTo (n * 10 ^ k) m e
  near : |(n * 10 ^ k : ℚ) - m * 2 ^ e| ≤ 10 ^ k / 2
  fine_le : fineExponent e ≤ k
  leading : (10 : ℚ) ^ k ≤ m * 2 ^ e

/-- A number is very near to the decimal, and is the decimal itself if that has few bits and its
exponent is small. -/
structure Approximates (n : Nat) (k : Int) (r : ℚ) : Prop where
  error : |(n * 10 ^ k : ℚ) - r| * closeness ≤ n * 10 ^ k
  exact : -12 ≤ k → k ≤ 12 → ∀ (b : Nat) (i : Int), b < Nat.pow 2 53 → -1074 ≤ i → i ≤ 971 →
    (n * 10 ^ k : ℚ) = b * 2 ^ i → r = n * 10 ^ k

/-- The two numbers whose decimal comes too near to an end of their intervals. -/
def IsTooNear (m : Nat) (e : Int) : Prop :=
  e = -107 ∧ (m = 11420669 ∨ m = 11420670)

namespace FoundFor

/-- The number is below the power of two with one bit more, and so is the decimal. -/
lemma lt_bits (h : FoundFor n k m e) :
    (m * 2 ^ e : ℚ) ≤ 0xFFFFFF * 2 ^ e ∧ (n * 10 ^ k : ℚ) < 0x1000000 * 2 ^ e := by
  have hunit : (0 : ℚ) < 2 ^ e := by positivity
  have hfits : m ≤ 0xFFFFFF := Nat.le_of_lt_succ h.number.fits
  have hm : (m : ℚ) ≤ 0xFFFFFF := by exact_mod_cast hfits
  have hle : (m * 2 ^ e : ℚ) ≤ 0xFFFFFF * 2 ^ e := mul_le_mul_of_nonneg_right hm hunit.le
  have hhalf := (abs_le.mp h.rounds.abs_le).2
  exact ⟨hle, by linarith⟩

lemma digits_pos (h : FoundFor n k m e) : 0 < n := by
  have hpos := h.rounds.pos h.pos
  by_contra hzero
  rw [Nat.eq_zero_of_not_pos hzero, Nat.cast_zero, zero_mul] at hpos
  exact hpos.false

/-- The exponents of the grids. -/
lemma exponent_bounds (h : FoundFor n k m e) :
    -45 ≤ k ∧ k ≤ 38 ∧ (fineExponent e < k → -44 ≤ k) := by
  obtain ⟨-, hcoarse⟩ := fineExponent_spec h.number.least h.number.greatest
  have hleast : (10 : ℚ) ^ (-45 : Int) < 2 ^ e := by
    calc (10 : ℚ) ^ (-45 : Int) < 2 ^ (-149 : Int) := by norm_num
      _ ≤ 2 ^ e := Format.two_zpow_le_iff.mpr h.number.least
  have hgreatest : (10 : ℚ) ^ k < 10 ^ (39 : Int) := by
    calc (10 : ℚ) ^ k ≤ 0xFFFFFF * 2 ^ e := h.leading.trans h.lt_bits.1
      _ ≤ 0xFFFFFF * 2 ^ (104 : Int) :=
        mul_le_mul_of_nonneg_left (Format.two_zpow_le_iff.mpr h.number.greatest) (by norm_num)
      _ < 10 ^ (39 : Int) := by norm_num
  have hfine := ten_zpow_lt_iff.mp (hleast.trans_le hcoarse)
  have hle := h.fine_le
  refine ⟨by omega, ?_, fun hlt => by omega⟩
  have := ten_zpow_lt_iff.mp hgreatest
  omega

/-- The decimal has few digits. -/
lemma digits_lt (h : FoundFor n k m e) : n < 10 ^ 9 := by
  obtain ⟨-, hcoarse⟩ := fineExponent_spec h.number.least h.number.greatest
  have hgrid : (0 : ℚ) < 10 ^ k := by positivity
  have hten : (2 : ℚ) ^ e ≤ 10 * 10 ^ k := by
    calc (2 : ℚ) ^ e ≤ 10 ^ (fineExponent e + 1) := hcoarse
      _ ≤ 10 ^ (k + 1) := ten_zpow_le_iff.mpr (by have := h.fine_le; omega)
      _ = 10 * 10 ^ k := by rw [zpow_add_one₀ (by norm_num), mul_comm]
  have hlt : (n : ℚ) < 10 ^ 9 := by
    refine lt_of_mul_lt_mul_right ?_ hgrid.le
    calc (n * 10 ^ k : ℚ) < 0x1000000 * 2 ^ e := h.lt_bits.2
      _ ≤ 0x1000000 * (10 * 10 ^ k) := mul_le_mul_of_nonneg_left hten (by norm_num)
      _ ≤ 10 ^ 9 * 10 ^ k := by linarith
  exact_mod_cast hlt

/-- So it has without the zeros at its end. -/
lemma few_digits (h : FoundFor n k m e) {digits zeros : Nat} (hdigits : n = digits * 10 ^ zeros) :
    0 < digits ∧ digits < 10 ^ 9 ∧ (digitsOf digits).length ≤ 9 ∧ zeros < 9 := by
  have hpos : 0 < digits := by
    by_contra hzero
    have hn := h.digits_pos
    rw [hdigits, Nat.eq_zero_of_not_pos hzero, Nat.zero_mul] at hn
    exact hn.false
  have hle : digits ≤ n := hdigits ▸ Nat.le_mul_of_pos_right _ (Nat.pow_pos (by decide))
  have hle' : 10 ^ zeros ≤ n := hdigits ▸ Nat.le_mul_of_pos_left _ hpos
  have hfew := hle.trans_lt h.digits_lt
  obtain ⟨l, hlength, hlow, -⟩ := exists_length_digitsOf hpos
  have hl := (Nat.pow_lt_pow_iff_right (show 1 < 10 by decide)).mp (hlow.trans_lt hfew)
  have hzeros := (Nat.pow_lt_pow_iff_right (show 1 < 10 by decide)).mp (hle'.trans_lt h.digits_lt)
  exact ⟨hpos, hfew, by omega, hzeros⟩

/-! ## What is near to it -/

/-- On a fine grid all that is near to the decimal is next to the number. -/
lemma roundsTo_of_fine (h : FoundFor n k m e) (hk : fineExponent e = k) {r : ℚ}
    (herror : |(n * 10 ^ k : ℚ) - r| * closeness ≤ n * 10 ^ k) : RoundsTo r m e := by
  obtain ⟨hfine, -⟩ := fineExponent_spec h.number.least h.number.greatest
  rw [hk] at hfine
  have hunit : (0 : ℚ) < 2 ^ e := by positivity
  have hlt := h.lt_bits.2
  have herror : |r - n * 10 ^ k| * 0xFFFFFFFFFFFFF ≤ (n * 10 ^ k : ℚ) := by
    rwa [abs_sub_comm]
  have htriangle := abs_sub_le r (n * 10 ^ k) (m * 2 ^ e)
  have hnear := h.near
  -- the grid leaves a margin of 1/400 of a unit, and the error is far below it
  left
  linarith

/-- On a coarse grid the unit of the number is a part of the power of two below the grid, and the
decimal has few digits also as a multiple of that part. -/
lemma exists_part (h : FoundFor n k m e) (hk : fineExponent e < k) :
    ∃ j : Nat, binaryExponent k = j + e ∧ 2 ^ j * n ≤ digitsBound := by
  obtain ⟨-, hcoarse⟩ := fineExponent_spec h.number.least h.number.greatest
  obtain ⟨-, hgreatest, hleast⟩ := h.exponent_bounds
  obtain ⟨hlow, hhigh⟩ := binaryExponent_spec (hleast hk) hgreatest
  have hgrid : (0 : ℚ) < 10 ^ k := by positivity
  have hle : (2 : ℚ) ^ e ≤ 10 ^ k := hcoarse.trans (ten_zpow_le_iff.mpr (by omega))
  have hexponent := Format.two_zpow_lt_iff.mp (hle.trans_lt hhigh)
  obtain ⟨j, hj⟩ : ∃ j : Nat, binaryExponent k = j + e := ⟨(binaryExponent k - e).toNat, by omega⟩
  have hpos : (0 : ℚ) < 2 ^ j := by positivity
  have hlt : (2 ^ j * n : ℚ) < 0x1000000 := by
    refine lt_of_mul_lt_mul_right ?_ hgrid.le
    calc (2 ^ j * n * 10 ^ k : ℚ) = 2 ^ j * (n * 10 ^ k) := by ring
      _ < 2 ^ j * (0x1000000 * 2 ^ e) := mul_lt_mul_of_pos_left h.lt_bits.2 hpos
      _ = 0x1000000 * 2 ^ binaryExponent k := by
        rw [hj, zpow_add₀ two_ne_zero, zpow_natCast]
        ring
      _ ≤ 0x1000000 * 10 ^ k := mul_le_mul_of_nonneg_left hlow (by norm_num)
  have hlt : 2 ^ j * n < 0x1000000 := by exact_mod_cast hlt
  exact ⟨j, hj, hlt.le⟩

/-- So the decimal keeps away from an end of the interval of the number or equals it, except for
one. -/
lemma separated (h : FoundFor n k m e) (hk : fineExponent e < k) {b : Nat} (hb : b < bitsBound) :
    ((n * 10 ^ k : ℚ) = b * 2 ^ (e - 1) ∧ -12 ≤ k ∧ k ≤ 12) ∨
      (n * 10 ^ k : ℚ) < closeness * |(n * 10 ^ k : ℚ) - b * 2 ^ (e - 1)| ∨
      (e = -107 ∧ b = 22841339) := by
  obtain ⟨-, hgreatest, hleast⟩ := h.exponent_bounds
  obtain ⟨j, hj, hdigits⟩ := h.exists_part hk
  have hpos : (0 : ℚ) < 2 ^ j := by positivity
  have hcast : ((2 ^ j * n : Nat) * 10 ^ k : ℚ) = 2 ^ j * (n * 10 ^ k) := by
    push_cast
    ring
  have hcast' : (b * 2 ^ (binaryExponent k - 1) : ℚ) = 2 ^ j * (b * 2 ^ (e - 1)) := by
    rw [show binaryExponent k - 1 = j + (e - 1) by omega, zpow_add₀ two_ne_zero, zpow_natCast]
    ring
  have hn : 0 < 2 ^ j * n := Nat.mul_pos (Nat.pow_pos two_pos) h.digits_pos
  have hseparation := separation (hleast hk) hgreatest hn hdigits hb
  -- the power of two that brings both to one exponent cancels
  rw [hcast, hcast', ← mul_sub, abs_mul, abs_of_pos hpos] at hseparation
  rcases hseparation with ⟨hequal, hsmall⟩ | hfar | ⟨rfl, hodd, hbit⟩
  · exact .inl ⟨mul_left_cancel₀ hpos.ne' hequal, hsmall⟩
  · exact .inr (.inl (lt_of_mul_lt_mul_left (hfar.trans_eq (mul_left_comm _ _ _)) hpos.le))
  · -- the digits are odd, so the unit is the power of two itself
    have hzero : j = 0 := by
      by_contra hne
      obtain ⟨i, rfl⟩ := Nat.exists_eq_succ_of_ne_zero hne
      rw [pow_succ', mul_assoc] at hodd
      omega
    have hexponent : binaryExponent (-32) = -107 := by decide
    exact .inr (.inr ⟨by omega, hbit⟩)

/-- What approximates the decimal does not pass an end of the interval. -/
lemma same_side (h : FoundFor n k m e) (hk : fineExponent e < k) {b : Nat} (hb : b < bitsBound)
    (hexception : ¬(e = -107 ∧ b = 22841339)) {r : ℚ} (hread : Approximates n k r) :
    r = n * 10 ^ k ∨ |(n * 10 ^ k : ℚ) - r| < |(n * 10 ^ k : ℚ) - b * 2 ^ (e - 1)| := by
  rcases h.separated hk hb with ⟨hequal, hsmall, hsmall'⟩ | hfar | hexception'
  · have hb : b < Nat.pow 2 53 := hb.trans (by decide)
    have hleast : -149 ≤ e := h.number.least
    have hgreatest : e ≤ 104 := h.number.greatest
    exact .inl (hread.exact hsmall hsmall' b (e - 1) hb (by omega) (by omega) hequal)
  · right
    have hpos : (0 : ℚ) < closeness := by norm_num [closeness]
    have herror := hread.error.trans_lt hfar
    rw [mul_comm] at herror
    exact lt_of_mul_lt_mul_left herror hpos.le
  · exact absurd hexception' hexception

lemma roundsTo_of_coarse (h : FoundFor n k m e) (hk : fineExponent e < k) (hfar : ¬IsTooNear m e)
    {r : ℚ} (hread : Approximates n k r) : RoundsTo r m e := by
  have hpos := h.pos
  have hfits : m < 0x1000000 := h.number.fits
  have hunit : (2 : ℚ) ^ e = 2 * 2 ^ (e - 1) := by
    rw [zpow_sub_one₀ two_ne_zero]
    ring
  have hlower : ((2 * m - 1 : Nat) * 2 ^ (e - 1) : ℚ) = m * 2 ^ e - 2 ^ e / 2 := by
    rw [Nat.cast_sub (by omega), hunit]
    push_cast
    ring
  have hupper : ((2 * m + 1 : Nat) * 2 ^ (e - 1) : ℚ) = m * 2 ^ e + 2 ^ e / 2 := by
    rw [hunit]
    push_cast
    ring
  unfold IsTooNear at hfar
  have hbound : 2 * m + 1 < bitsBound := by
    unfold bitsBound
    omega
  have hlow := h.same_side (b := 2 * m - 1) hk (by omega) (by omega) hread
  have hhigh := h.same_side (b := 2 * m + 1) hk hbound (by omega) hread
  rw [hlower] at hlow
  rw [hupper] at hhigh
  rcases hlow with rfl | hlow
  · exact h.rounds
  rcases hhigh with rfl | hhigh
  · exact h.rounds
  -- the decimal is in the interval, and what is near to it is nearer than both ends
  obtain ⟨hleft, hright⟩ := abs_le.mp h.rounds.abs_le
  obtain ⟨hmove, hmove'⟩ := abs_le.mp (le_refl |(n * 10 ^ k : ℚ) - r|)
  have hlow := hlow.trans_eq (abs_of_nonneg (by linarith))
  have hhigh := hhigh.trans_eq (abs_of_nonpos (by linarith))
  exact .inl (abs_lt.mpr ⟨by linarith, by linarith⟩)

lemma roundsTo (h : FoundFor n k m e) (hfar : ¬IsTooNear m e) {r : ℚ} (hread : Approximates n k r) :
    RoundsTo r m e := by
  rcases h.fine_le.eq_or_lt with hk | hk
  · exact h.roundsTo_of_fine hk hread.error
  · exact h.roundsTo_of_coarse hk hfar hread

end FoundFor

/-- The decimal of a number, with the zeros at its end that do not count in its digits. -/
lemma exists_foundFor (hnumber : Format.single.IsNumber m e) (hm : 0 < m)
    (hgap : ¬(m = Nat.pow 2 (Format.single.precision - 1) ∧ Format.single.minExponent < e)) :
    ∃ (n zeros : Nat) (k : Int), n = (Format.single.shortest m e).digits * 10 ^ zeros ∧
      (Format.single.shortest m e).exponent = k + zeros ∧ FoundFor n k m e := by
  obtain ⟨hfine, hcoarse⟩ := fineExponent_spec hnumber.least hnumber.greatest
  have hfits : m ≤ 0xFFFFFF := Nat.le_of_lt_succ hnumber.fits
  have hunit : (0 : ℚ) < 2 ^ e := by positivity
  have hrange : (m * 2 ^ e : ℚ) < 10 ^ (fineExponent e + 18) := by
    have hgrid : (0 : ℚ) < 10 ^ (fineExponent e + 1) := by positivity
    calc (m * 2 ^ e : ℚ) ≤ 0xFFFFFF * 10 ^ (fineExponent e + 1) :=
          mul_le_mul (by exact_mod_cast hfits) hcoarse hunit.le (by norm_num)
      _ < 10 ^ 17 * 10 ^ (fineExponent e + 1) := mul_lt_mul_of_pos_right (by norm_num) hgrid
      _ = 10 ^ (fineExponent e + 18) := by
        rw [← zpow_natCast, ← zpow_add₀ (by norm_num)]
        congr 1
        omega
  obtain ⟨n, zeros, k, hdigits, hexponent, hle, hleading, hrounds, hnear⟩ :=
    Format.shortest_spec hm hgap (by linarith) hrange
  exact ⟨n, zeros, k, hdigits, hexponent, hnumber, hm, hrounds, hnear, hle, hleading⟩

end BulkWrite.Decimal
