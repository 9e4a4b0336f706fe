import BulkWrite.Number.Shortest
import BulkWrite.Proofs.Number.Rounding

/-!
# The shortest decimal

The shortest decimal of a number lies in the interval of the quotients that are rounded to the
number, and of the decimals with its exponent it is the nearest. Where the grid of that exponent is
finer than a unit of the number, the nearest one lies well inside (`Format.shortest_spec`).
-/

namespace BulkWrite

lemma ten_zpow_eq (k : Int) : (10 : ℚ) ^ k = 10 ^ k.toNat / 10 ^ (-k).toNat := by
  have hsplit : k = k.toNat - (-k).toNat := by omega
  conv_lhs => rw [hsplit, zpow_sub₀ (by norm_num), zpow_natCast, zpow_natCast]

lemma ten_zpow_lt_iff {a b : Int} : (10 : ℚ) ^ a < 10 ^ b ↔ a < b :=
  zpow_lt_zpow_iff_right₀ (by norm_num)

lemma ten_zpow_le_iff {a b : Int} : (10 : ℚ) ^ a ≤ 10 ^ b ↔ a ≤ b :=
  zpow_le_zpow_iff_right₀ (by norm_num)

/-- Of two quotients the one that is no further away is rounded to a number if the other one is. -/
lemma RoundsTo.of_le {q q' : ℚ} {m : Nat} {e : Int} (h : RoundsTo q m e)
    (hle : |q' - m * 2 ^ e| ≤ |q - m * 2 ^ e|) : RoundsTo q' m e := by
  rcases h with hlt | ⟨heq, heven⟩
  · exact .inl (hle.trans_lt hlt)
  · rcases (hle.trans_eq heq).lt_or_eq with hlt | heq
    · exact .inl hlt
    · exact .inr ⟨heq, heven⟩

namespace Decimal

/-! ## Digits -/

/-- The number of digits of a number. -/
lemma exists_length_digitsOf {n : Nat} (h : 0 < n) :
    ∃ l, (digitsOf n).length = l + 1 ∧ 10 ^ l ≤ n ∧ n < 10 ^ (l + 1) := by
  induction n using Nat.base_induction 10 (by decide) with
  | single n hlt =>
    refine ⟨0, ?_, by omega, by omega⟩
    rw [digitsOf, Nat.toDigits_of_lt_base hlt]
    rfl
  | digit n k hk hpos ih =>
    obtain ⟨l, hlength, hlow, hhigh⟩ := ih hpos
    refine ⟨l + 1, ?_, ?_, ?_⟩
    · rw [digitsOf, ← Nat.toDigits_append_toDigits (by decide) hpos hk, List.length_append,
        Nat.toDigits_of_lt_base hk]
      exact congrArg (· + 1) hlength
    · rw [pow_succ]
      omega
    · rw [pow_succ]
      omega

/-- The exponent of the leading digit of a quotient. -/
lemma leadingExponent_spec {num den : Nat} (hnum : 0 < num) (hden : 0 < den) :
    (10 : ℚ) ^ leadingExponent num den ≤ num / den ∧
      (num / den : ℚ) < 10 ^ (leadingExponent num den + 1) := by
  have hd : (0 : ℚ) < den := by exact_mod_cast hden
  have hn : (0 : ℚ) < num := by exact_mod_cast hnum
  unfold leadingExponent
  split
  · rename_i hle
    obtain ⟨l, hlength, hlow, hhigh⟩ := exists_length_digitsOf (Nat.div_pos hle hden)
    rw [hlength, Nat.cast_succ, add_sub_cancel_right, le_div_iff₀ hd, div_lt_iff₀ hd,
      ← Nat.cast_succ, zpow_natCast, zpow_natCast]
    constructor
    · exact_mod_cast (Nat.le_div_iff_mul_le hden).mp hlow
    · exact_mod_cast (Nat.div_lt_iff_lt_mul hden).mp hhigh
  · rename_i hlt
    -- below one it is the reciprocal, rounded up, whose digits are counted
    have hceil : 0 < (den + num - 1) / num - 1 := by
      have := (Nat.le_div_iff_mul_le (x := 2) hnum).mpr (by omega : 2 * num ≤ den + num - 1)
      omega
    obtain ⟨l, hlength, hlow, hhigh⟩ := exists_length_digitsOf hceil
    have hlow : 10 ^ l * num < den := by
      have := (Nat.le_div_iff_mul_le hnum).mp (by omega : 10 ^ l + 1 ≤ (den + num - 1) / num)
      rw [Nat.add_mul] at this
      omega
    have hhigh : den ≤ 10 ^ (l + 1) * num := by
      have := (Nat.div_lt_iff_lt_mul hnum).mp (by omega : (den + num - 1) / num < 10 ^ (l + 1) + 1)
      rw [Nat.add_mul] at this
      omega
    rw [hlength, show -((l + 1 : Nat) : Int) + 1 = -(l : Int) by omega, zpow_neg, zpow_neg,
      zpow_natCast, zpow_natCast]
    constructor
    · rw [inv_le_comm₀ (by positivity) (by positivity), inv_div, div_le_iff₀ hn]
      exact_mod_cast hhigh
    · rw [lt_inv_comm₀ (by positivity) (by positivity), inv_div, lt_div_iff₀ hn]
      exact_mod_cast hlow

/-- Zeros at the end count in the exponent instead. -/
lemma strip_spec (fuel : Nat) (d : Decimal) :
    ∃ zeros : Nat, d.digits = (strip fuel d).digits * 10 ^ zeros ∧
      (strip fuel d).exponent = d.exponent + zeros := by
  induction fuel generalizing d with
  | zero => exact ⟨0, by simp [strip], by simp [strip]⟩
  | succ fuel ih =>
    rw [strip]
    split
    · rename_i hzero
      obtain ⟨zeros, hdigits, hexponent⟩ := ih ⟨d.digits / 10, d.exponent + 1⟩
      refine ⟨zeros + 1, ?_, ?_⟩
      · rw [pow_succ, ← mul_assoc, ← hdigits]
        exact (Nat.div_mul_cancel (Nat.dvd_of_mod_eq_zero hzero.2)).symm
      · rw [hexponent, Nat.cast_succ]
        ring
    · exact ⟨0, by simp, by simp⟩

/-! ## The search -/

namespace Interval

/-- If a grid that is fine enough has a point in the interval, a search finds one on it or on a
coarser grid. -/
lemma coarsest_spec {i : Interval} {fuel : Nat} {exponent fine : Int} (hle : fine ≤ exponent)
    (hfuel : exponent ≤ fine + fuel) (hfound : (i.onGrid? fine).isSome) :
    ∃ n k, i.coarsest fuel exponent = ⟨n, k⟩ ∧ i.onGrid? k = some n ∧ fine ≤ k ∧ k ≤ exponent := by
  induction fuel generalizing exponent with
  | zero =>
    obtain rfl : exponent = fine := by omega
    obtain ⟨n, hn⟩ := Option.isSome_iff_exists.mp hfound
    exact ⟨n, exponent, by rw [coarsest, hn, Option.getD_some], hn, hle, le_rfl⟩
  | succ fuel ih =>
    rw [coarsest]
    cases hgrid : i.onGrid? exponent with
    | some n => exact ⟨n, exponent, rfl, hgrid, hle, le_rfl⟩
    | none =>
      have hne : fine ≠ exponent := by
        rintro rfl
        rw [hgrid] at hfound
        cases hfound
      obtain ⟨n, k, hsearch, hn, hk, hk'⟩ := ih (show fine ≤ exponent - 1 by omega) (by omega)
      exact ⟨n, k, hsearch, hn, hk, by omega⟩

end Interval
end Decimal

namespace Format

variable {f : Format} {m n : Nat} {e k : Int}

/-! ## The interval of a number -/

/-- A comparison with a point of a grid, in whole numbers. -/
lemma le_point_iff {a den : Nat} (hden : 0 < den) :
    a * Nat.pow 10 (-k).toNat ≤ n * Nat.pow 10 k.toNat * den ↔ (a / den : ℚ) ≤ n * 10 ^ k := by
  have hd : (0 : ℚ) < den := by exact_mod_cast hden
  have hp : (0 : ℚ) < 10 ^ (-k).toNat := by positivity
  rw [ten_zpow_eq, mul_div_assoc', div_le_div_iff₀ hd hp, Nat.pow_eq, Nat.pow_eq]
  exact_mod_cast Iff.rfl

lemma point_le_iff {a den : Nat} (hden : 0 < den) :
    n * Nat.pow 10 k.toNat * den ≤ a * Nat.pow 10 (-k).toNat ↔ (n * 10 ^ k : ℚ) ≤ a / den := by
  have hd : (0 : ℚ) < den := by exact_mod_cast hden
  have hp : (0 : ℚ) < 10 ^ (-k).toNat := by positivity
  rw [ten_zpow_eq, mul_div_assoc', div_le_div_iff₀ hp hd, Nat.pow_eq, Nat.pow_eq]
  exact_mod_cast Iff.rfl

/-- A bound of the interval is a multiple of a quarter of a unit. -/
lemma shiftLeft_div (a : Nat) (e : Int) :
    ((a <<< (e - 2).toNat : Nat) / (1 <<< (2 - e).toNat : Nat) : ℚ) = a * 2 ^ e / 4 := by
  have hquarter : (2 : ℚ) ^ (e - 2) = 2 ^ e / 4 := by
    rw [zpow_sub₀ two_ne_zero]
    norm_num
  have hsplit := two_zpow_eq (e - 2)
  rw [show -(e - 2) = 2 - e by ring] at hsplit
  rw [cast_shiftLeft, cast_shiftLeft, Nat.cast_one, one_mul, mul_div_assoc, ← hsplit, hquarter]
  ring

/-- Where the exponent does not change, the interval holds what is rounded to the number. -/
lemma contains_interval_iff (hm : 0 < m)
    (hgap : ¬(m = Nat.pow 2 (f.precision - 1) ∧ f.minExponent < e)) :
    (f.interval m e).contains n k ↔ RoundsTo (n * 10 ^ k) m e := by
  have hden : 0 < 1 <<< (2 - e).toNat := by
    rw [Nat.shiftLeft_eq]
    positivity
  have hlower : (((4 * m - 2) <<< (e - 2).toNat : Nat) / (1 <<< (2 - e).toNat : Nat) : ℚ) =
      m * 2 ^ e - 2 ^ e / 2 := by
    rw [shiftLeft_div, Nat.cast_sub (by omega)]
    push_cast
    ring
  have hupper : (((4 * m + 2) <<< (e - 2).toNat : Nat) / (1 <<< (2 - e).toNat : Nat) : ℚ) =
      m * 2 ^ e + 2 ^ e / 2 := by
    rw [shiftLeft_div]
    push_cast
    ring
  have hunit : (0 : ℚ) < 2 ^ e := by positivity
  unfold interval Decimal.Interval.contains RoundsTo
  dsimp only
  rw [if_neg hgap]
  rcases Nat.mod_two_eq_zero_or_one m with heven | hodd
  · simp only [heven, beq_self_eq_true, if_true, Bool.and_eq_true, decide_eq_true_eq, and_true]
    rw [le_point_iff hden, point_le_iff hden, hlower, hupper, ← le_iff_lt_or_eq, abs_le]
    constructor <;> rintro ⟨hleft, hright⟩ <;> constructor <;> linarith
  · simp only [hodd, Nat.reduceBEq, Bool.false_eq_true, if_false, Bool.and_eq_true,
      decide_eq_true_eq, Nat.one_ne_zero, and_false, or_false]
    rw [lt_iff_lt_of_le_iff_le (point_le_iff hden), lt_iff_lt_of_le_iff_le (le_point_iff hden),
      hlower, hupper, abs_lt]
    constructor <;> rintro ⟨hleft, hright⟩ <;> constructor <;> linarith

/-- The point of a grid that is next to a number. -/
lemma onGrid?_interval (f : Format) (m : Nat) (e k : Int) :
    ∃ near far : Nat, |(near * 10 ^ k : ℚ) - m * 2 ^ e| ≤ 10 ^ k / 2 ∧
      |(near * 10 ^ k : ℚ) - m * 2 ^ e| ≤ |(far * 10 ^ k : ℚ) - m * 2 ^ e| ∧
      (f.interval m e).onGrid? k =
        if (f.interval m e).contains near k then some near
        else if (f.interval m e).contains far k then some far else none := by
  have hden : 0 < 1 <<< (2 - e).toNat * Nat.pow 10 k.toNat := by
    rw [Nat.shiftLeft_eq, Nat.pow_eq]
    positivity
  have hvalue : (((4 * m) <<< (e - 2).toNat * Nat.pow 10 (-k).toNat : Nat) /
      (1 <<< (2 - e).toNat * Nat.pow 10 k.toNat : Nat) : ℚ) * 10 ^ k = m * 2 ^ e := by
    have hquarters := shiftLeft_div (4 * m) e
    rw [Nat.cast_mul, Nat.cast_mul, cast_natPow, cast_natPow, ten_zpow_eq, mul_div_mul_comm,
      hquarters]
    push_cast
    field_simp
  have hgrid : (0 : ℚ) < 10 ^ k := by positivity
  -- measured in steps of the grid, the candidates are those of rounding to a whole number
  generalize hnum : (4 * m) <<< (e - 2).toNat * Nat.pow 10 (-k).toNat = num at hvalue
  generalize hunit : 1 <<< (2 - e).toNat * Nat.pow 10 k.toNat = unit at hvalue hden
  have hrest := Nat.mod_lt num hden
  have hnear := nearestEven_error (num / unit) hrest
  have hfar := nearestEven_le_other (num / unit) hrest
  rw [div_eq_whole_add_rest hden] at hvalue
  set t : ℚ := (num / unit : Nat) + (num % unit : Nat) / unit
  set near := nearestEven (num / unit) (num % unit) unit
  have hdist (n : Nat) : |(n * 10 ^ k : ℚ) - m * 2 ^ e| = |t - n| * 10 ^ k := by
    rw [← hvalue, abs_sub_comm, ← sub_mul, abs_mul, abs_of_pos hgrid]
  refine ⟨near, if near = num / unit then num / unit + 1 else num / unit, ?_, ?_, ?_⟩
  · rw [hdist]
    nlinarith
  · rw [hdist, hdist]
    gcongr
  · subst hnum hunit
    rfl

/-- What is found on a grid is the point next to the number. -/
lemma onGrid?_eq_some (hm : 0 < m)
    (hgap : ¬(m = Nat.pow 2 (f.precision - 1) ∧ f.minExponent < e))
    (h : (f.interval m e).onGrid? k = some n) :
    RoundsTo (n * 10 ^ k) m e ∧ |(n * 10 ^ k : ℚ) - m * 2 ^ e| ≤ 10 ^ k / 2 := by
  obtain ⟨near, far, hnear, hfar, hgrid⟩ := onGrid?_interval f m e k
  rw [hgrid] at h
  split at h
  · rename_i hin
    obtain rfl := Option.some.inj h
    exact ⟨(contains_interval_iff hm hgap).mp hin, hnear⟩
  · rename_i hnot
    rw [contains_interval_iff hm hgap] at hnot
    split at h
    · rename_i hin
      exact absurd (((contains_interval_iff hm hgap).mp hin).of_le hfar) hnot
    · cases h

/-- A grid finer than the unit of a number has a point in its interval. -/
lemma isSome_onGrid? (hm : 0 < m)
    (hgap : ¬(m = Nat.pow 2 (f.precision - 1) ∧ f.minExponent < e))
    (hfine : (10 : ℚ) ^ k < 2 ^ e) : ((f.interval m e).onGrid? k).isSome := by
  obtain ⟨near, far, hnear, -, hgrid⟩ := onGrid?_interval f m e k
  have hrounds : RoundsTo (near * 10 ^ k) m e := .inl (hnear.trans_lt (by linarith))
  rw [hgrid, if_pos ((contains_interval_iff hm hgap).mpr hrounds)]
  rfl

/-! ## The shortest decimal -/

/-- The shortest decimal of a number, if a grid with `fine` as its exponent is finer than the unit
of the number, and not so much finer that a search would not come to it. -/
theorem shortest_spec {fine : Int} (hm : 0 < m)
    (hgap : ¬(m = Nat.pow 2 (f.precision - 1) ∧ f.minExponent < e))
    (hfine : (10 : ℚ) ^ fine < 2 ^ e) (hcoarse : (m * 2 ^ e : ℚ) < 10 ^ (fine + 18)) :
    ∃ (n zeros : Nat) (k : Int), n = (f.shortest m e).digits * 10 ^ zeros ∧
      (f.shortest m e).exponent = k + zeros ∧ fine ≤ k ∧ (10 : ℚ) ^ k ≤ m * 2 ^ e ∧
      RoundsTo (n * 10 ^ k) m e ∧ |(n * 10 ^ k : ℚ) - m * 2 ^ e| ≤ 10 ^ k / 2 := by
  have hnum : 0 < (4 * m) <<< (e - 2).toNat := by
    rw [Nat.shiftLeft_eq]
    positivity
  have hden : 0 < 1 <<< (2 - e).toNat := by
    rw [Nat.shiftLeft_eq]
    positivity
  have hvalue : (((4 * m) <<< (e - 2).toNat : Nat) / (1 <<< (2 - e).toNat : Nat) : ℚ) =
      m * 2 ^ e := by
    rw [shiftLeft_div]
    push_cast
    ring
  obtain ⟨hlow, hhigh⟩ := Decimal.leadingExponent_spec hnum hden
  rw [hvalue] at hlow hhigh
  set leading := Decimal.leadingExponent ((4 * m) <<< (e - 2).toNat) (1 <<< (2 - e).toNat)
  have hunit : (2 : ℚ) ^ e ≤ m * 2 ^ e :=
    le_mul_of_one_le_left (by positivity) (by exact_mod_cast hm)
  have hle : fine ≤ leading := by
    have := ten_zpow_lt_iff.mp ((hfine.trans_le hunit).trans hhigh)
    omega
  have hfuel : leading ≤ fine + 17 := by
    have := ten_zpow_lt_iff.mp (hlow.trans_lt hcoarse)
    omega
  -- the search starts at the leading digit and ends at the fine grid at the latest
  obtain ⟨n, k, hsearch, hgrid, hk, hk'⟩ :=
    Decimal.Interval.coarsest_spec hle hfuel (isSome_onGrid? hm hgap hfine)
  obtain ⟨hrounds, hnear⟩ := onGrid?_eq_some hm hgap hgrid
  have hshortest : f.shortest m e = Decimal.strip 18 ⟨n, k⟩ := by
    unfold shortest
    rw [if_neg hm.ne', ← hsearch]
    rfl
  obtain ⟨zeros, hdigits, hexponent⟩ := Decimal.strip_spec 18 ⟨n, k⟩
  rw [← hshortest] at hdigits hexponent
  have hleading : (10 : ℚ) ^ k ≤ m * 2 ^ e := (ten_zpow_le_iff.mpr hk').trans hlow
  exact ⟨n, zeros, k, hdigits, hexponent, hk, hleading, hrounds, hnear⟩

end Format
end BulkWrite
