import Mathlib.Algebra.Order.Field.Power
import Mathlib.Data.Rat.Cast.Order
import Mathlib.Tactic.FieldSimp
import Mathlib.Tactic.Lemma
import Mathlib.Tactic.Linarith
import Mathlib.Tactic.Positivity
import Mathlib.Tactic.Ring
import BulkWrite.Number.Binary

/-!
# Rounding to a format

A quotient is rounded to the number of a format that is next to it. Two statements say all that is
needed of it: a number of the format is the one that all quotients within half a unit of it are
rounded to (`Format.round_eq`), and what a quotient is rounded to differs from it by no more than
half a unit (`Format.round_error`).
-/

namespace BulkWrite

/-- Whether a quotient is next to `m · 2 ^ e`: within half a unit of it, or at an end of that
interval if `m` is even. -/
def RoundsTo (q : ℚ) (m : Nat) (e : Int) : Prop :=
  |q - m * 2 ^ e| < 2 ^ e / 2 ∨ |q - m * 2 ^ e| = 2 ^ e / 2 ∧ m % 2 = 0

lemma RoundsTo.abs_le {q : ℚ} {m : Nat} {e : Int} (h : RoundsTo q m e) :
    |q - m * 2 ^ e| ≤ 2 ^ e / 2 :=
  h.elim le_of_lt fun h => h.1.le

/-- What is next to a positive number is positive. -/
lemma RoundsTo.pos {q : ℚ} {m : Nat} {e : Int} (h : RoundsTo q m e) (hm : 0 < m) : 0 < q := by
  have hunit : (0 : ℚ) < 2 ^ e := by positivity
  have hone : (2 : ℚ) ^ e ≤ m * 2 ^ e :=
    le_mul_of_one_le_left hunit.le (by exact_mod_cast hm)
  have hhalf := neg_le_of_abs_le h.abs_le
  linarith

namespace Format

/-! ## Multiples of a power of two -/

lemma cast_shiftLeft (n i : Nat) : ((n <<< i : Nat) : ℚ) = n * 2 ^ i := by
  rw [Nat.shiftLeft_eq]
  push_cast
  rfl

lemma cast_natPow (b n : Nat) : ((Nat.pow b n : Nat) : ℚ) = b ^ n := by
  rw [Nat.pow_eq]
  push_cast
  rfl

/-- A significand that fits its bits, as a quotient. -/
lemma fits_iff {m p : Nat} : m < Nat.pow 2 p ↔ (m : ℚ) < 2 ^ p := by
  rw [Nat.pow_eq]
  exact_mod_cast Iff.rfl

lemma two_zpow_eq (e : Int) : (2 : ℚ) ^ e = 2 ^ e.toNat / 2 ^ (-e).toNat := by
  have hsplit : e = e.toNat - (-e).toNat := by omega
  conv_lhs => rw [hsplit, zpow_sub₀ two_ne_zero, zpow_natCast, zpow_natCast]

/-- The whole part and the remainder of a quotient. -/
lemma div_eq_whole_add_rest {den : Nat} (hden : 0 < den) (num : Nat) :
    (num / den : ℚ) = (num / den : Nat) + (num % den : Nat) / den := by
  have hd : (den : ℚ) ≠ 0 := by exact_mod_cast hden.ne'
  have hsplit : (den : ℚ) * (num / den : Nat) + (num % den : Nat) = num := by
    exact_mod_cast Nat.div_add_mod num den
  rw [eq_comm, ← hsplit, add_div, mul_div_cancel_left₀ _ hd]

/-- A quotient as a multiple of a power of two. -/
lemma scaled_spec {den : Nat} (hden : 0 < den) (num : Nat) (e : Int) :
    ∃ whole rest unit, scaled num den e = (whole, rest, unit) ∧ rest < unit ∧
      (num / den : ℚ) = (whole + rest / unit) * 2 ^ e := by
  have hunit : 0 < den <<< e.toNat := by
    rw [Nat.shiftLeft_eq]
    positivity
  refine ⟨_, _, _, rfl, Nat.mod_lt _ hunit, ?_⟩
  rw [← div_eq_whole_add_rest hunit, cast_shiftLeft, cast_shiftLeft, two_zpow_eq]
  field_simp

/-! ## The nearest multiple -/

variable {whole rest unit m : Nat}

lemma frac_bounds (h : rest < unit) : (0 : ℚ) ≤ rest / unit ∧ (rest / unit : ℚ) < 1 := by
  have hunit : (0 : ℚ) < unit := by exact_mod_cast Nat.zero_lt_of_lt h
  refine ⟨by positivity, (div_lt_one hunit).mpr ?_⟩
  exact_mod_cast h

/-- Which half of a unit the remainder lies in. -/
lemma frac_cases (h : rest < unit) :
    (2 * rest < unit ∧ (rest / unit : ℚ) < 1 / 2) ∨ (unit < 2 * rest ∧ (1 / 2 : ℚ) < rest / unit) ∨
      (2 * rest = unit ∧ (rest / unit : ℚ) = 1 / 2) := by
  have hunit : (0 : ℚ) < unit := by exact_mod_cast Nat.zero_lt_of_lt h
  rcases Nat.lt_trichotomy (2 * rest) unit with hlt | heq | hgt
  · refine .inl ⟨hlt, ?_⟩
    rw [div_lt_div_iff₀ hunit two_pos]
    exact_mod_cast (by omega : rest * 2 < 1 * unit)
  · refine .inr (.inr ⟨heq, ?_⟩)
    rw [div_eq_div_iff hunit.ne' two_ne_zero]
    exact_mod_cast (by omega : rest * 2 = 1 * unit)
  · refine .inr (.inl ⟨hgt, ?_⟩)
    rw [div_lt_div_iff₀ two_pos hunit]
    exact_mod_cast (by omega : 1 * unit < rest * 2)

/-- The nearest multiple is no more than half a unit away. -/
lemma nearestEven_error (whole : Nat) (h : rest < unit) :
    |(whole + rest / unit : ℚ) - nearestEven whole rest unit| ≤ 1 / 2 := by
  obtain ⟨hlow, hhigh⟩ := frac_bounds h
  unfold nearestEven
  rw [abs_le]
  rcases frac_cases h with ⟨hlt, hfrac⟩ | ⟨hgt, hfrac⟩ | ⟨heq, hfrac⟩
  · rw [if_pos hlt]
    constructor <;> linarith
  · rw [if_neg (by omega), if_pos hgt]
    push_cast
    constructor <;> linarith
  · rw [if_neg (by omega), if_neg (by omega)]
    rcases Nat.mod_two_eq_zero_or_one whole with heven | hodd
    · rw [heven]
      push_cast
      constructor <;> linarith
    · rw [hodd]
      push_cast
      constructor <;> linarith

lemma nearestEven_le (whole rest unit : Nat) : nearestEven whole rest unit ≤ whole + 1 := by
  unfold nearestEven
  split_ifs <;> omega

lemma le_nearestEven (whole rest unit : Nat) : whole ≤ nearestEven whole rest unit := by
  unfold nearestEven
  split_ifs <;> omega

/-- The other one of the two neighbours is no nearer. -/
lemma nearestEven_le_other (whole : Nat) (h : rest < unit) :
    |(whole + rest / unit : ℚ) - nearestEven whole rest unit| ≤ |(whole + rest / unit : ℚ) -
      (if nearestEven whole rest unit = whole then whole + 1 else whole : Nat)| := by
  have hnear := nearestEven_error whole h
  obtain ⟨hleft, hright⟩ := abs_le.mp hnear
  have hge := le_nearestEven whole rest unit
  have hle := nearestEven_le whole rest unit
  -- they are neighbours, so they are not both less than half a step away
  refine hnear.trans (le_abs.mpr ?_)
  split
  · rename_i heq
    rw [heq] at hright
    right
    push_cast
    linarith
  · have heq : nearestEven whole rest unit = whole + 1 := by omega
    rw [heq] at hleft
    left
    push_cast at hleft ⊢
    linarith

/-- A multiple within half a unit is the nearest, and so is an even one half a unit away. -/
lemma nearestEven_eq (h : rest < unit)
    (hnear : |(whole + rest / unit : ℚ) - m| < 1 / 2 ∨
      |(whole + rest / unit : ℚ) - m| = 1 / 2 ∧ m % 2 = 0) :
    nearestEven whole rest unit = m := by
  obtain ⟨hlow, hhigh⟩ := frac_bounds h
  have hle : |(whole + rest / unit : ℚ) - m| ≤ 1 / 2 := hnear.elim le_of_lt fun h => h.1.le
  obtain ⟨hleft, hright⟩ := abs_le.mp hle
  have hcases : m = whole ∨ m = whole + 1 := by
    have hlt : (m : ℚ) < (whole + 2 : Nat) := by push_cast; linarith
    have hgt : (whole : ℚ) < (m + 1 : Nat) := by push_cast; linarith
    have hlt : m < whole + 2 := by exact_mod_cast hlt
    have hgt : whole < m + 1 := by exact_mod_cast hgt
    omega
  unfold nearestEven
  rcases frac_cases h with ⟨hlt, hfrac⟩ | ⟨hgt, hfrac⟩ | ⟨heq, hfrac⟩
  · rw [if_pos hlt]
    rcases hcases with rfl | rfl
    · rfl
    · push_cast at hleft
      linarith
  · rw [if_neg (by omega), if_pos hgt]
    rcases hcases with rfl | rfl
    · linarith
    · rfl
  · rw [if_neg (by omega), if_neg (by omega)]
    -- half a unit away from both, so `m` is the even one
    have hhalf : |(whole + rest / unit : ℚ) - m| = 1 / 2 := by
      rcases hcases with rfl | rfl <;> rw [hfrac] <;> push_cast <;> norm_num
    have heven : m % 2 = 0 := by
      rcases hnear with hnear | hnear
      · exact absurd hhalf hnear.ne
      · exact hnear.2
    omega

/-! ## The exponent -/

variable {f : Format} {num den : Nat} {e : Int} {q : ℚ}

lemma log2_bounds {n : Nat} (h : 0 < n) :
    (2 : ℚ) ^ (n.log2 : Int) ≤ n ∧ (n : ℚ) < 2 ^ (n.log2 + 1 : Int) := by
  refine ⟨?_, ?_⟩
  · rw [zpow_natCast]
    exact_mod_cast Nat.log2_self_le h.ne'
  · rw [← Nat.cast_succ, zpow_natCast]
    exact_mod_cast Nat.lt_log2_self

/-- The exponent at which a quotient has as many bits as a significand, or the least one. -/
def IsExponentOf (f : Format) (q : ℚ) (e : Int) : Prop :=
  f.minExponent ≤ e ∧ q < 2 ^ (e + f.precision) ∧
    (e = f.minExponent ∨ 2 ^ (e + f.precision - 1) ≤ q)

lemma two_zpow_lt_iff {a b : Int} : (2 : ℚ) ^ a < 2 ^ b ↔ a < b :=
  zpow_lt_zpow_iff_right₀ one_lt_two

lemma two_zpow_le_iff {a b : Int} : (2 : ℚ) ^ a ≤ 2 ^ b ↔ a ≤ b :=
  zpow_le_zpow_iff_right₀ one_lt_two

/-- There is only one such exponent. -/
lemma IsExponentOf.unique {e' : Int} (h : f.IsExponentOf q e) (h' : f.IsExponentOf q e') :
    e = e' := by
  obtain ⟨hmin, hlt, hle⟩ := h
  obtain ⟨hmin', hlt', hle'⟩ := h'
  have hright : e ≤ e' := by
    rcases hle with rfl | hle
    · exact hmin'
    · have := two_zpow_lt_iff.mp (hle.trans_lt hlt')
      omega
  have hleft : e' ≤ e := by
    rcases hle' with rfl | hle'
    · exact hmin
    · have := two_zpow_lt_iff.mp (hle'.trans_lt hlt)
      omega
  omega

/-- The numbers of bits of a quotient's parts leave one more bit of the quotient open. -/
lemma quotient_bounds (hnum : 0 < num) (hden : 0 < den) :
    (2 : ℚ) ^ ((num.log2 : Int) - den.log2 - 1) ≤ num / den ∧
      (num / den : ℚ) < 2 ^ ((num.log2 : Int) - den.log2 + 1) := by
  obtain ⟨hnlow, hnhigh⟩ := log2_bounds hnum
  obtain ⟨hdlow, hdhigh⟩ := log2_bounds hden
  have hd : (0 : ℚ) < den := by exact_mod_cast hden
  constructor
  · rw [le_div_iff₀ hd]
    calc (2 : ℚ) ^ ((num.log2 : Int) - den.log2 - 1) * den
        ≤ 2 ^ ((num.log2 : Int) - den.log2 - 1) * 2 ^ (den.log2 + 1 : Int) := by gcongr
      _ = 2 ^ (num.log2 : Int) := by
        rw [← zpow_add₀ two_ne_zero]
        congr 1
        omega
      _ ≤ num := hnlow
  · rw [div_lt_iff₀ hd]
    calc (num : ℚ) < 2 ^ (num.log2 + 1 : Int) := hnhigh
      _ = 2 ^ ((num.log2 : Int) - den.log2 + 1) * 2 ^ (den.log2 : Int) := by
        rw [← zpow_add₀ two_ne_zero]
        congr 1
        omega
      _ ≤ 2 ^ ((num.log2 : Int) - den.log2 + 1) * den := by gcongr

lemma isExponentOf_exponentFor (hnum : 0 < num) (hden : 0 < den) :
    f.IsExponentOf (num / den) (f.exponentFor num den) := by
  -- the logarithms give the exponent up to one: the guess is right or too small by one
  obtain ⟨hlow, hhigh⟩ := quotient_bounds hnum hden
  set guess : Int := (num.log2 : Int) - den.log2 - f.precision with hguess
  rw [show (num.log2 : Int) - den.log2 - 1 = guess + f.precision - 1 by omega] at hlow
  rw [show (num.log2 : Int) - den.log2 + 1 = guess + f.precision + 1 by omega] at hhigh
  obtain ⟨whole, rest, unit, hscaled, hrest, hq⟩ := scaled_spec hden num guess
  obtain ⟨hzero, hone⟩ := frac_bounds hrest
  have hunit : (0 : ℚ) < 2 ^ guess := by positivity
  have hbits : (2 : ℚ) ^ (guess + f.precision) = (Nat.pow 2 f.precision : Nat) * 2 ^ guess := by
    rw [add_comm, zpow_add₀ two_ne_zero, zpow_natCast, cast_natPow, Nat.cast_two]
  unfold exponentFor
  simp only [← hguess, hscaled]
  split
  · rename_i hfits
    have hlt : (num / den : ℚ) < 2 ^ (guess + f.precision) := by
      have hle : (whole + 1 : ℚ) ≤ (Nat.pow 2 f.precision : Nat) := by exact_mod_cast hfits
      rw [hbits, hq]
      exact mul_lt_mul_of_pos_right (by linarith) hunit
    rcases le_total f.minExponent guess with hmin | hmin
    · rw [max_eq_right hmin]
      exact ⟨hmin, hlt, .inr hlow⟩
    · rw [max_eq_left hmin]
      exact ⟨le_rfl, hlt.trans_le (two_zpow_le_iff.mpr (by omega)), .inl rfl⟩
  · rename_i hfits
    have hle : (2 : ℚ) ^ (guess + f.precision) ≤ num / den := by
      have hle : ((Nat.pow 2 f.precision : Nat) : ℚ) ≤ whole := by exact_mod_cast not_lt.mp hfits
      rw [hbits, hq]
      exact mul_le_mul_of_nonneg_right (by linarith) hunit.le
    rcases le_total f.minExponent (guess + 1) with hmin | hmin
    · rw [max_eq_right hmin]
      refine ⟨hmin, ?_, .inr ?_⟩
      · rwa [show guess + 1 + f.precision = guess + f.precision + 1 by ring]
      · rwa [show guess + 1 + f.precision - 1 = guess + f.precision by ring]
    · rw [max_eq_left hmin]
      refine ⟨le_rfl, hhigh.trans_le (two_zpow_le_iff.mpr (by omega)), .inl rfl⟩

/-- At its exponent a quotient is rounded to all bits of a significand, and to no more than one more
than these can hold. -/
lemma IsExponentOf.nearestEven_bounds (h : f.IsExponentOf q e) (hprecision : 0 < f.precision)
    (hrest : rest < unit) (hq : q = (whole + rest / unit) * 2 ^ e) :
    nearestEven whole rest unit ≤ Nat.pow 2 f.precision ∧
      (e = f.minExponent ∨ Nat.pow 2 (f.precision - 1) ≤ nearestEven whole rest unit) := by
  obtain ⟨-, hlt, hfull⟩ := h
  obtain ⟨hlow, hhigh⟩ := frac_bounds hrest
  have hunit : (0 : ℚ) < 2 ^ e := by positivity
  constructor
  · rw [add_comm, zpow_add₀ two_ne_zero, zpow_natCast, hq] at hlt
    have hlt := lt_of_mul_lt_mul_right hlt hunit.le
    have hwhole : whole < Nat.pow 2 f.precision := fits_iff.mpr (by linarith)
    have := nearestEven_le whole rest unit
    omega
  · refine hfull.imp_right fun hfull => ?_
    have hsplit : e + f.precision - 1 = (f.precision - 1 : Nat) + e := by omega
    rw [hsplit, zpow_add₀ two_ne_zero, zpow_natCast, hq] at hfull
    have hle := le_of_mul_le_mul_right hfull hunit
    have hwhole : ((Nat.pow 2 (f.precision - 1) : Nat) : ℚ) < (whole + 1 : Nat) := by
      rw [cast_natPow, Nat.cast_two, Nat.cast_succ]
      linarith
    have hwhole : Nat.pow 2 (f.precision - 1) < whole + 1 := by exact_mod_cast hwhole
    have := le_nearestEven whole rest unit
    omega

lemma two_natPow_eq {p : Nat} (h : 0 < p) : Nat.pow 2 p = 2 * Nat.pow 2 (p - 1) := by
  rw [Nat.pow_eq, Nat.pow_eq, ← pow_succ', Nat.sub_add_cancel h]

/-! ## Rounding -/

/-- The significand and the exponent of a number of the format. The significand has all its bits,
unless the exponent is the least one. -/
structure IsNumber (f : Format) (m : Nat) (e : Int) : Prop where
  fits : m < Nat.pow 2 f.precision
  least : f.minExponent ≤ e
  greatest : e ≤ f.maxExponent
  full : e = f.minExponent ∨ Nat.pow 2 (f.precision - 1) ≤ m

/-- At its exponent a quotient is rounded to the significand next to it. -/
lemma round_eq_of_exponent {m : Nat} {negative : Bool} (hnum : 0 < num) (hden : 0 < den)
    (hexponent : f.IsExponentOf (num / den) e) (hmax : e ≤ f.maxExponent)
    (hm : m < Nat.pow 2 f.precision) (hnear : RoundsTo (num / den) m e) :
    f.round negative num den = .finite negative m e := by
  have he := (isExponentOf_exponentFor hnum hden).unique hexponent
  obtain ⟨whole, rest, unit, hscaled, hrest, hq⟩ := scaled_spec hden num e
  have hunit : (0 : ℚ) < 2 ^ e := by positivity
  have hsignificand : nearestEven whole rest unit = m := by
    apply nearestEven_eq hrest
    have hdist : |(num / den : ℚ) - m * 2 ^ e| = |(whole + rest / unit : ℚ) - m| * 2 ^ e := by
      rw [hq, ← sub_mul, abs_mul, abs_of_pos hunit]
    rw [RoundsTo, hdist] at hnear
    refine hnear.imp (fun h => ?_) fun h => ⟨?_, h.2⟩
    · exact lt_of_mul_lt_mul_right (h.trans_eq (by ring)) hunit.le
    · exact mul_right_cancel₀ hunit.ne' (h.1.trans (by ring))
  unfold round
  simp only [if_neg hnum.ne', he, hscaled, hsignificand, if_pos hm, if_neg (not_lt.mpr hmax)]

/-- A number of the format is what all quotients next to it are rounded to. The numbers at which the
exponent changes are left out, since the interval is narrower below them. -/
theorem round_eq {m : Nat} (negative : Bool) (hnum : 0 < num) (hden : 0 < den)
    (hnumber : f.IsNumber m e) (hgap : ¬(m = Nat.pow 2 (f.precision - 1) ∧ f.minExponent < e))
    (hprecision : 0 < f.precision) (hnear : RoundsTo (num / den) m e) :
    f.round negative num den = .finite negative m e := by
  obtain ⟨hm, hmin, hmax, hfull⟩ := hnumber
  have hunit : (0 : ℚ) < 2 ^ e := by positivity
  obtain ⟨hleft, hright⟩ := abs_le.mp hnear.abs_le
  refine round_eq_of_exponent hnum hden ⟨hmin, ?_, ?_⟩ hmax hm hnear
  · have hle : (m + 1 : ℚ) ≤ 2 ^ f.precision := by
      have hle : ((m + 1 : Nat) : ℚ) ≤ (Nat.pow 2 f.precision : Nat) := by exact_mod_cast hm
      rwa [cast_natPow, Nat.cast_two, Nat.cast_succ] at hle
    rw [zpow_add₀ two_ne_zero, zpow_natCast]
    nlinarith
  · by_cases hleast : e = f.minExponent
    · exact .inl hleast
    have hfull : Nat.pow 2 (f.precision - 1) < m := by omega
    right
    have hle : (2 : ℚ) ^ (f.precision - 1) + 1 ≤ m := by
      have hle : ((Nat.pow 2 (f.precision - 1) + 1 : Nat) : ℚ) ≤ m := by exact_mod_cast hfull
      rwa [Nat.cast_succ, cast_natPow, Nat.cast_two] at hle
    have hsplit : e + f.precision - 1 = e + (f.precision - 1 : Nat) := by omega
    rw [hsplit, zpow_add₀ two_ne_zero, zpow_natCast]
    nlinarith

/-- In the range of the format a quotient is rounded to a number that is no more than half a unit
away. -/
theorem round_error (negative : Bool) (hnum : 0 < num) (hden : 0 < den)
    (hlow : 2 ^ (f.minExponent + f.precision - 1) ≤ (num / den : ℚ))
    (hhigh : (num / den : ℚ) < 2 ^ (f.maxExponent + f.precision - 1))
    (hprecision : 0 < f.precision) : ∃ m e, f.round negative num den = .finite negative m e ∧
      |(num / den : ℚ) - m * 2 ^ e| * 2 ^ f.precision ≤ num / den := by
  have hexponent := isExponentOf_exponentFor (f := f) hnum hden
  set e := f.exponentFor num den with he
  have hfull : (2 : ℚ) ^ (e + f.precision - 1) ≤ num / den := by
    rcases hexponent.2.2 with hleast | hfull
    · rwa [hleast]
    · exact hfull
  have hmax : e < f.maxExponent := by
    have := two_zpow_lt_iff.mp (hfull.trans_lt hhigh)
    omega
  obtain ⟨whole, rest, unit, hscaled, hrest, hq⟩ := scaled_spec hden num e
  have hunit : (0 : ℚ) < 2 ^ e := by positivity
  have hnear := nearestEven_error whole hrest
  have herror : |(num / den : ℚ) - nearestEven whole rest unit * 2 ^ e| * 2 ^ f.precision ≤
      num / den := by
    have hdist : |(num / den : ℚ) - nearestEven whole rest unit * 2 ^ e| ≤ 1 / 2 * 2 ^ e := by
      rw [hq, ← sub_mul, abs_mul, abs_of_pos hunit]
      exact mul_le_mul_of_nonneg_right hnear hunit.le
    calc |(num / den : ℚ) - nearestEven whole rest unit * 2 ^ e| * 2 ^ f.precision
        ≤ 1 / 2 * 2 ^ e * 2 ^ f.precision := by gcongr
      _ = 2 ^ (e + f.precision - 1) := by
        rw [zpow_sub₀ two_ne_zero, zpow_add₀ two_ne_zero, zpow_natCast, zpow_one]
        ring
      _ ≤ num / den := hfull
  unfold round
  simp only [if_neg hnum.ne', ← he, hscaled]
  split
  · exact ⟨_, e, if_neg (by omega), herror⟩
  · rename_i hfits
    -- one more than fits is a power of two
    have hsignificand : nearestEven whole rest unit = Nat.pow 2 f.precision := by
      have := (hexponent.nearestEven_bounds hprecision hrest hq).1
      omega
    have hvalue : ((nearestEven whole rest unit / 2 : Nat) * 2 ^ (e + 1) : ℚ) =
        nearestEven whole rest unit * 2 ^ e := by
      rw [hsignificand, two_natPow_eq hprecision, Nat.mul_div_cancel_left _ two_pos,
        zpow_add_one₀ two_ne_zero]
      push_cast
      ring
    refine ⟨_, e + 1, if_neg (by omega), ?_⟩
    rw [hvalue]
    exact herror

/-- What a quotient is rounded to is a number of the format. -/
theorem isNumber_of_round {negative s : Bool} {m : Nat} (hden : 0 < den)
    (hprecision : 0 < f.precision) (hrange : f.minExponent ≤ f.maxExponent)
    (h : f.round negative num den = .finite s m e) : f.IsNumber m e := by
  rcases Nat.eq_zero_or_pos num with rfl | hnum
  · rw [round, if_pos rfl] at h
    injection h with _ hm he
    subst hm he
    exact ⟨Nat.pow_pos two_pos, le_rfl, hrange, .inl rfl⟩
  have hexponent := isExponentOf_exponentFor (f := f) hnum hden
  obtain ⟨whole, rest, unit, hscaled, hrest, hq⟩ := scaled_spec hden num (f.exponentFor num den)
  obtain ⟨hle, hfull⟩ := hexponent.nearestEven_bounds hprecision hrest hq
  unfold round at h
  simp only [if_neg hnum.ne', hscaled] at h
  split at h
  · rename_i hfits
    split at h
    · cases h
    · rename_i hmax
      injection h with _ hm he
      subst hm he
      exact ⟨hfits, hexponent.1, not_lt.mp hmax, hfull⟩
  · rename_i hfits
    split at h
    · cases h
    · rename_i hmax
      injection h with _ hm he
      subst hm he
      -- half of one more than fits has all bits
      have hhalf := two_natPow_eq hprecision
      have hleast := hexponent.1
      have hpos : 0 < Nat.pow 2 (f.precision - 1) := Nat.pow_pos two_pos
      exact ⟨by omega, by omega, not_lt.mp hmax, .inr (by omega)⟩

/-- A number that a significand can hold is rounded to itself. -/
theorem round_exact (negative : Bool) (hnum : 0 < num) (hden : 0 < den) {n : Nat} {k : Int}
    (hn : n < Nat.pow 2 f.precision) (hmin : f.minExponent ≤ k) (hmax : k ≤ f.maxExponent)
    (hq : (num / den : ℚ) = n * 2 ^ k) :
    ∃ m e, f.round negative num den = .finite negative m e ∧ (m * 2 ^ e : ℚ) = num / den := by
  have hexponent := isExponentOf_exponentFor (f := f) hnum hden
  set e := f.exponentFor num den
  have hn := fits_iff.mp hn
  have hle : e ≤ k := by
    rcases hexponent.2.2 with hleast | hfull
    · exact hleast ▸ hmin
    · have hlt : (num / den : ℚ) < 2 ^ (k + f.precision) := by
        rw [hq, add_comm, zpow_add₀ two_ne_zero, zpow_natCast]
        gcongr
      have := two_zpow_lt_iff.mp (hfull.trans_lt hlt)
      omega
  have hvalue : ((n * 2 ^ (k - e).toNat : Nat) * 2 ^ e : ℚ) = num / den := by
    have hsplit : k = (k - e).toNat + e := by omega
    rw [hq]
    conv_rhs => rw [hsplit, zpow_add₀ two_ne_zero, zpow_natCast]
    push_cast
    ring
  refine ⟨_, e, round_eq_of_exponent hnum hden hexponent (hle.trans hmax) ?_ ?_, hvalue⟩
  · have hlt := hexponent.2.1
    rw [← hvalue, add_comm, zpow_add₀ two_ne_zero, zpow_natCast] at hlt
    exact fits_iff.mpr (lt_of_mul_lt_mul_right hlt (by positivity))
  · left
    rw [hvalue, sub_self, abs_zero]
    positivity

/-! ## Signs -/

lemma round_withSign (f : Format) (negative s : Bool) (num den : Nat) :
    f.round negative num den = (f.round s num den).withSign negative := by
  unfold round
  split
  · rfl
  · dsimp only
    split <;> split <;> rfl

/-- A sign does not count in what a number is rounded to. -/
lemma ofBinary_withSign (f : Format) (negative : Bool) (x : Binary) :
    f.ofBinary (x.withSign negative) = (f.ofBinary x).withSign negative := by
  cases x with
  | finite s m e => exact f.round_withSign negative s _ _
  | infinite | notANumber => rfl

end Format
end BulkWrite
