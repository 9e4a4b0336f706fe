import BulkWrite.Json.Number
import BulkWrite.Proofs.Number.Shortest

/-!
# Reading a decimal in two steps

A reader takes the digits of a literal as a whole number and multiplies or divides it by a power of
ten. The power is rounded, and so is the result. For literals of moderate size the result is no
further from the decimal than two roundings allow, and it is the decimal itself if a significand can
hold that and the power is small (`Literal.scale?_spec`).
-/

namespace BulkWrite

namespace Format

/-! ## The 64-bit format -/

lemma shiftLeft_div_shiftLeft (a b : Nat) (e : Int) :
    ((a <<< e.toNat : Nat) / (b <<< (-e).toNat : Nat) : ℚ) = a / b * 2 ^ e := by
  rw [cast_shiftLeft, cast_shiftLeft, mul_div_mul_comm, ← two_zpow_eq]

lemma shiftLeft_pos {a : Nat} (ha : 0 < a) (i : Nat) : 0 < a <<< i := by
  rw [Nat.shiftLeft_eq]
  positivity

/-- Quotients of moderate size are in the range of the format. -/
def IsModerate (q : ℚ) : Prop :=
  2 ^ (-255 : Int) ≤ q ∧ q ≤ 2 ^ (255 : Int)

/-- What a quotient is rounded to: a number near to it, and the quotient itself if the format has
it. -/
structure NextTo (q : ℚ) (m : Nat) (e : Int) : Prop where
  error : |q - m * 2 ^ e| * 2 ^ 53 ≤ q
  exact : ∀ (n : Nat) (k : Int), n < Nat.pow 2 53 → -1074 ≤ k → k ≤ 971 → q = n * 2 ^ k →
    (m * 2 ^ e : ℚ) = q

lemma double_round {num den : Nat} (hnum : 0 < num) (hden : 0 < den)
    (h : IsModerate (num / den)) (negative : Bool) :
    ∃ m e, double.round negative num den = .finite negative m e ∧ NextTo (num / den) m e := by
  have hlow : (2 : ℚ) ^ (double.minExponent + double.precision - 1) ≤ num / den :=
    (two_zpow_le_iff.mpr (by decide)).trans h.1
  have hhigh : (num / den : ℚ) < 2 ^ (double.maxExponent + double.precision - 1) :=
    h.2.trans_lt (two_zpow_lt_iff.mpr (by decide))
  obtain ⟨m, e, hround, herror⟩ := round_error negative hnum hden hlow hhigh (by decide)
  refine ⟨m, e, hround, herror, fun n k hn hk hk' hq => ?_⟩
  obtain ⟨m', e', hround', hexact⟩ := round_exact (f := double) negative hnum hden hn hk hk' hq
  rw [hround] at hround'
  injection hround' with _ hm he
  rwa [hm, he]

variable {m₁ m₂ : Nat} {e₁ e₂ : Int}

lemma double_product (hm₁ : 0 < m₁) (hm₂ : 0 < m₂)
    (h : IsModerate (m₁ * 2 ^ e₁ * (m₂ * 2 ^ e₂))) (negative : Bool) :
    ∃ m e, double.product negative m₁ e₁ m₂ e₂ = .finite negative m e ∧
      NextTo (m₁ * 2 ^ e₁ * (m₂ * 2 ^ e₂)) m e := by
  have hq := shiftLeft_div_shiftLeft (m₁ * m₂) 1 (e₁ + e₂)
  have hvalue : ((m₁ * m₂ : Nat) / (1 : Nat) * 2 ^ (e₁ + e₂) : ℚ) =
      m₁ * 2 ^ e₁ * (m₂ * 2 ^ e₂) := by
    rw [zpow_add₀ two_ne_zero]
    push_cast
    ring
  rw [hvalue] at hq
  rw [← hq] at h ⊢
  have hnum := shiftLeft_pos (Nat.mul_pos hm₁ hm₂) (e₁ + e₂).toNat
  exact double_round hnum (shiftLeft_pos Nat.one_pos _) h negative

lemma double_quotient (hm₁ : 0 < m₁) (hm₂ : 0 < m₂)
    (h : IsModerate (m₁ * 2 ^ e₁ / (m₂ * 2 ^ e₂))) (negative : Bool) :
    ∃ m e, double.quotient negative m₁ e₁ m₂ e₂ = .finite negative m e ∧
      NextTo (m₁ * 2 ^ e₁ / (m₂ * 2 ^ e₂)) m e := by
  have hq := shiftLeft_div_shiftLeft m₁ m₂ (e₁ - e₂)
  have hvalue : (m₁ / m₂ * 2 ^ (e₁ - e₂) : ℚ) = m₁ * 2 ^ e₁ / (m₂ * 2 ^ e₂) := by
    rw [zpow_sub₀ two_ne_zero]
    ring
  rw [hvalue] at hq
  rw [← hq] at h ⊢
  exact double_round (shiftLeft_pos hm₁ _) (shiftLeft_pos hm₂ _) h negative

/-- A whole number within the significand stays the same. -/
lemma double_ofInt {n : Nat} (hn : 0 < n) (hfits : n < Nat.pow 2 53) :
    ∃ m e, double.ofInt n = .finite false m e ∧ (m * 2 ^ e : ℚ) = n := by
  have hround := round_exact (f := double) false hn Nat.one_pos (n := n) (k := 0) hfits
    (by decide) (by decide) (by simp)
  rwa [Nat.cast_one, div_one] at hround

end Format

namespace Json.Literal

/-- A power of ten is rounded to a number near to it, and a small one is kept. -/
lemma powerOfTen_spec {n : Nat} (hn : n ≤ 60) :
    |(10 ^ n : ℚ) - (powerOfTen n).1 * 2 ^ (powerOfTen n).2| * 2 ^ 53 ≤ 10 ^ n ∧
      (n ≤ 22 → ((powerOfTen n).1 * 2 ^ (powerOfTen n).2 : ℚ) = 10 ^ n) := by
  have hvalue : ((Nat.pow 10 n : Nat) / (1 : Nat) : ℚ) = 10 ^ n := by
    rw [Format.cast_natPow, Nat.cast_one, div_one, Nat.cast_ofNat]
  have hmoderate : Format.IsModerate ((Nat.pow 10 n : Nat) / (1 : Nat)) := by
    have hone : (1 : ℚ) ≤ 10 ^ n := one_le_pow₀ (by norm_num)
    have hle : (10 : ℚ) ^ n ≤ 10 ^ 60 := pow_le_pow_right₀ (by norm_num) hn
    rw [hvalue]
    exact ⟨le_trans (by norm_num) hone, hle.trans (by norm_num)⟩
  have hpos : 0 < Nat.pow 10 n := Nat.pow_pos (by decide)
  obtain ⟨m, e, hround, hnext⟩ := Format.double_round hpos Nat.one_pos hmoderate false
  unfold powerOfTen
  rw [hround]
  rw [hvalue] at hnext
  refine ⟨hnext.error, fun hsmall => hnext.exact (5 ^ n) n ?_ (by omega) (by omega) ?_⟩
  · exact (Nat.pow_le_pow_right (by decide) hsmall).trans_lt (by decide)
  · rw [zpow_natCast, Nat.cast_pow, Nat.cast_ofNat, ← mul_pow]
    norm_num

/-- Two roundings take a product no further away than this. -/
lemma product_error {x p t r : ℚ} (hx : 0 < x) (hp : |t - p| * 2 ^ 53 ≤ t)
    (hr : |x * p - r| * 2 ^ 53 ≤ x * p) : |x * t - r| * 0xFFFFFFFFFFFFF ≤ x * t := by
  have hfirst : |x * t - x * p| * 2 ^ 53 ≤ x * t := by
    rw [← mul_sub, abs_mul, abs_of_pos hx, mul_assoc]
    exact mul_le_mul_of_nonneg_left hp hx.le
  have hnonneg := abs_nonneg (x * t - x * p)
  have hle := neg_abs_le (x * t - x * p)
  have htriangle := abs_sub_le (x * t) (x * p) r
  linarith

/-- And a quotient. -/
lemma quotient_error {x p t r : ℚ} (hx : 0 < x) (ht : 0 < t) (hp : |t - p| * 2 ^ 53 ≤ t)
    (hp' : 0 < p) (hr : |x / p - r| * 2 ^ 53 ≤ x / p) :
    |x / t - r| * 0xFFFFFFFFFFFFF ≤ x / t := by
  have hfirst : |x / t - x / p| * 2 ^ 53 ≤ x / p := by
    have hdiff : x / t - x / p = x / p * ((p - t) / t) := by field_simp
    have hratio : |(p - t) / t| * 2 ^ 53 ≤ 1 := by
      rw [abs_div, abs_of_pos ht, abs_sub_comm, div_mul_eq_mul_div]
      exact (div_le_one ht).mpr hp
    rw [hdiff, abs_mul, abs_of_pos (div_pos hx hp'), mul_assoc]
    exact mul_le_of_le_one_right (div_pos hx hp').le hratio
  have hnonneg := abs_nonneg (x / p - r)
  have hle := neg_abs_le (x / t - x / p)
  have htriangle := abs_sub_le (x / t) (x / p) r
  linarith

/-- The rounded power lies within twice of the power. -/
lemma powerOfTen_bounds {n : Nat} (hn : n ≤ 60) :
    0 < (powerOfTen n).1 ∧ (1 / 2 : ℚ) ≤ (powerOfTen n).1 * 2 ^ (powerOfTen n).2 ∧
      ((powerOfTen n).1 * 2 ^ (powerOfTen n).2 : ℚ) ≤ 2 ^ 201 := by
  have herror := (powerOfTen_spec hn).1
  have hone : (1 : ℚ) ≤ 10 ^ n := one_le_pow₀ (by norm_num)
  have hle : (10 : ℚ) ^ n ≤ 2 ^ 200 := by
    calc (10 : ℚ) ^ n ≤ 10 ^ 60 := pow_le_pow_right₀ (by norm_num) hn
      _ ≤ 2 ^ 200 := by norm_num
  have hleft := neg_abs_le ((10 : ℚ) ^ n - (powerOfTen n).1 * 2 ^ (powerOfTen n).2)
  have hright := le_abs_self ((10 : ℚ) ^ n - (powerOfTen n).1 * 2 ^ (powerOfTen n).2)
  have hlow : (1 / 2 : ℚ) ≤ (powerOfTen n).1 * 2 ^ (powerOfTen n).2 := by linarith
  refine ⟨?_, hlow, by linarith⟩
  by_contra hzero
  rw [Nat.eq_zero_of_not_pos hzero, Nat.cast_zero, zero_mul] at hlow
  norm_num at hlow

/-- What `q`, a whole number times `10 ^ k`, is read as: a number near to it, and `q` itself if the
format has it and the power of ten is kept. -/
structure ScaledTo (q : ℚ) (k : Int) (m : Nat) (e : Int) : Prop where
  error : |q - m * 2 ^ e| * 0xFFFFFFFFFFFFF ≤ q
  exact : -22 ≤ k → k ≤ 22 → ∀ (n : Nat) (i : Int), n < Nat.pow 2 53 → -1074 ≤ i → i ≤ 971 →
    q = n * 2 ^ i → (m * 2 ^ e : ℚ) = q

section

variable {x : ℚ} {m₁ n : Nat} {e₁ : Int} (hm₁ : 0 < m₁) (hvalue : (m₁ * 2 ^ e₁ : ℚ) = x)
  (hone : 1 ≤ x) (hlt : x < 2 ^ 53) (hn : n ≤ 60)

include hm₁ hvalue hone hlt hn

/-- A product with a rounded power of ten. -/
lemma product_spec : ∃ m e,
    Format.double.product false m₁ e₁ (powerOfTen n).1 (powerOfTen n).2 = .finite false m e ∧
      ScaledTo (x * 10 ^ (n : Int)) n m e := by
  have hpos : 0 < x := zero_lt_one.trans_le hone
  obtain ⟨herror, hexact⟩ := powerOfTen_spec hn
  obtain ⟨hp, hlow, hhigh⟩ := powerOfTen_bounds hn
  have hmoderate : Format.IsModerate
      (m₁ * 2 ^ e₁ * ((powerOfTen n).1 * 2 ^ (powerOfTen n).2)) := by
    rw [hvalue]
    constructor
    · calc (2 : ℚ) ^ (-255 : Int) ≤ 1 * (1 / 2) := by norm_num
        _ ≤ x * ((powerOfTen n).1 * 2 ^ (powerOfTen n).2) := by gcongr
    · calc (x * ((powerOfTen n).1 * 2 ^ (powerOfTen n).2) : ℚ) ≤ 2 ^ 53 * 2 ^ 201 := by gcongr
        _ ≤ 2 ^ (255 : Int) := by norm_num
  obtain ⟨m, e, hproduct, hnext⟩ := Format.double_product hm₁ hp hmoderate false
  rw [hvalue] at hnext
  rw [zpow_natCast]
  refine ⟨m, e, hproduct, product_error hpos herror hnext.error, ?_⟩
  intro _ hsmall b i hb hi hi' hq
  rw [hexact (by omega)] at hnext
  exact hnext.exact b i hb hi hi' hq

/-- A quotient by one. -/
lemma overPower_spec : ∃ m e, overPower m₁ e₁ n = .finite false m e ∧
    ScaledTo (x * 10 ^ (-n : Int)) (-n) m e := by
  have hpos : 0 < x := zero_lt_one.trans_le hone
  obtain ⟨herror, hexact⟩ := powerOfTen_spec hn
  obtain ⟨hp, hlow, hhigh⟩ := powerOfTen_bounds hn
  have hmoderate : Format.IsModerate
      (m₁ * 2 ^ e₁ / ((powerOfTen n).1 * 2 ^ (powerOfTen n).2)) := by
    rw [hvalue]
    constructor
    · calc (2 : ℚ) ^ (-255 : Int) ≤ 1 / 2 ^ 201 := by norm_num
        _ ≤ x / ((powerOfTen n).1 * 2 ^ (powerOfTen n).2) := by gcongr
    · calc (x / ((powerOfTen n).1 * 2 ^ (powerOfTen n).2) : ℚ) ≤ 2 ^ 53 / (1 / 2) := by gcongr
        _ ≤ 2 ^ (255 : Int) := by norm_num
  obtain ⟨m, e, hquotient, hnext⟩ := Format.double_quotient hm₁ hp hmoderate false
  rw [hvalue] at hnext
  rw [zpow_neg, zpow_natCast, ← div_eq_mul_inv]
  refine ⟨m, e, hquotient, quotient_error hpos (by positivity) herror (by linarith) hnext.error, ?_⟩
  intro hsmall _ b i hb hi hi' hq
  rw [hexact (by omega)] at hnext
  exact hnext.exact b i hb hi hi' hq

end

/-- A decimal of moderate size, whose digits a significand can hold, is read as a number near to it,
and as itself if that is possible and the power of ten is kept. -/
theorem scale?_spec {n : Nat} {k : Int} (hn : 0 < n) (hfits : n < Nat.pow 2 53) (hk : -60 ≤ k)
    (hk' : k ≤ 60) :
    ∃ m e, scale? n k = some (.finite false m e) ∧ ScaledTo (n * 10 ^ k) k m e := by
  obtain ⟨m₁, e₁, hint, hvalue⟩ := Format.double_ofInt hn hfits
  have hone : (1 : ℚ) ≤ n := by exact_mod_cast hn
  have hlt : (n : ℚ) < 2 ^ 53 := Format.fits_iff.mp hfits
  have hm₁ : 0 < m₁ := by
    by_contra hzero
    rw [Nat.eq_zero_of_not_pos hzero, Nat.cast_zero, zero_mul] at hvalue
    linarith
  unfold scale? greatestPower
  rw [if_neg hn.ne', hint]
  dsimp only
  -- a product with the rounded power above, and a quotient below
  by_cases hsign : 0 ≤ k
  · obtain ⟨j, rfl⟩ := Int.eq_ofNat_of_zero_le hsign
    obtain ⟨m, e, hproduct, hscaled⟩ := product_spec hm₁ hvalue hone hlt (n := j) (by omega)
    rw [if_pos hsign, if_pos (by omega), Int.toNat_natCast, hproduct]
    exact ⟨m, e, rfl, hscaled⟩
  · obtain ⟨j, rfl⟩ : ∃ j : Nat, k = -j := ⟨(-k).toNat, by omega⟩
    obtain ⟨m, e, hquotient, hscaled⟩ := overPower_spec hm₁ hvalue hone hlt (n := j) (by omega)
    rw [if_neg hsign, neg_neg, Int.toNat_natCast, if_pos (by omega), hquotient]
    exact ⟨m, e, rfl, hscaled⟩

end Json.Literal
end BulkWrite
