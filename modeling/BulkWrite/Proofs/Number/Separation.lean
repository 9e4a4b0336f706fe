import Mathlib.Tactic.LinearCombination
import Mathlib.Tactic.Zify
import BulkWrite.Proofs.Number.Shortest

/-!
# How near decimals come to binary numbers

A decimal of few digits that is not equal to a binary number of few bits is not very near to it
either (`Decimal.separation`). For one power of ten this is a statement about fractions: between two
neighbours among the fractions of bounded denominators there is no other, so whatever fraction comes
near to the quotient of the two powers is a multiple of one of the two around it
(`Bracket.Encloses.cases`). The two fractions are searched for each power (`Bracket.around`) and
then checked.
-/

namespace BulkWrite

/-! ## Neighbouring fractions -/

/-- Two fractions around a quotient. -/
structure Bracket where
  lowNum : Nat
  lowDen : Nat
  highNum : Nat
  highDen : Nat
deriving DecidableEq, Repr

/-- What adds up to less than the sum of both parts, and to more than nothing, holds only one of
them, or takes one of them away from the other. -/
lemma parts_cases {x y i j : Int} (hx : 0 ≤ x) (hy : 0 ≤ y) (hpos : 0 < i * x + j * y)
    (hlt : i * x + j * y < x + y) :
    (j = 0 ∧ 0 < i) ∨ (i = 0 ∧ 0 < j) ∨ (0 < i ∧ j < 0) ∨ (i < 0 ∧ 0 < j) := by
  rcases lt_trichotomy i 0 with hi | rfl | hi
  · have hj : 0 < j := by
      by_contra hj
      nlinarith
    exact .inr (.inr (.inr ⟨hi, hj⟩))
  · have hj : 0 < j := by
      by_contra hj
      nlinarith
    exact .inr (.inl ⟨rfl, hj⟩)
  · rcases lt_trichotomy j 0 with hj | rfl | hj
    · exact .inr (.inr (.inl ⟨hi, hj⟩))
    · exact .inl ⟨rfl, hi⟩
    · nlinarith

/-- Parts of opposite signs do not cancel. -/
lemma add_le_abs_of_opposite {x y i j : Int} (hx : 0 ≤ x) (hy : 0 ≤ y)
    (h : (0 < i ∧ j < 0) ∨ (i < 0 ∧ 0 < j)) : x + y ≤ |i * x - j * y| := by
  rcases h with ⟨hi, hj⟩ | ⟨hi, hj⟩
  · refine le_abs.mpr (.inl ?_)
    nlinarith
  · refine le_abs.mpr (.inr ?_)
    nlinarith

namespace Bracket

variable {s : Bracket} {a b bound n m : Nat}

/-- The two fractions are neighbours around `a / b` among those of denominators up to `bound`. -/
structure Encloses (s : Bracket) (a b bound : Nat) : Prop where
  low : s.lowNum * b ≤ s.lowDen * a
  high : s.highDen * a ≤ s.highNum * b
  neighbours : s.highNum * s.lowDen = s.lowNum * s.highDen + 1
  lowDen_le : s.lowDen ≤ bound
  highDen_le : s.highDen ≤ bound
  bound_lt : bound < s.lowDen + s.highDen

/-- The distance of the two from the quotient adds up to one over both denominators. -/
lemma Encloses.le_distances (h : s.Encloses a b bound) :
    (b : Int) ≤
      bound * ((s.lowDen * a - s.lowNum * b : Int) + (s.highNum * b - s.highDen * a)) := by
  obtain ⟨hlow, hhigh, hneighbours, hlowDen, hhighDen, -⟩ := h
  zify at hlow hhigh hneighbours hlowDen hhighDen
  have hleft : s.highDen * (s.lowDen * a - s.lowNum * b : Int) ≤
      bound * (s.lowDen * a - s.lowNum * b) :=
    mul_le_mul_of_nonneg_right hhighDen (by omega)
  have hright : s.lowDen * (s.highNum * b - s.highDen * a : Int) ≤
      bound * (s.highNum * b - s.highDen * a) :=
    mul_le_mul_of_nonneg_right hlowDen (by omega)
  have hb : (b : Int) = s.highDen * (s.lowDen * a - s.lowNum * b) +
      s.lowDen * (s.highNum * b - s.highDen * a) := by
    linear_combination (-(b : Int)) * hneighbours
  linarith

/-- A fraction of such a denominator is a multiple of one of the two, or away from the quotient. -/
lemma Encloses.cases (h : s.Encloses a b bound) (hn : 0 < n) (hbound : n ≤ bound) :
    (∃ c, 0 < c ∧ n = c * s.lowDen ∧ m = c * s.lowNum) ∨
      (∃ c, 0 < c ∧ n = c * s.highDen ∧ m = c * s.highNum) ∨
        (b : Int) ≤ bound * |(n * a : Int) - m * b| := by
  have hdistances := h.le_distances
  obtain ⟨hlow, hhigh, hneighbours, -, -, hlt⟩ := h
  zify at hlow hhigh hneighbours hlt hn hbound
  -- the fraction as a sum of multiples of the two
  obtain ⟨i, hi⟩ : ∃ i : Int, i = n * s.highNum - m * s.highDen := ⟨_, rfl⟩
  obtain ⟨j, hj⟩ : ∃ j : Int, j = m * s.lowDen - n * s.lowNum := ⟨_, rfl⟩
  have hn_eq : (n : Int) = i * s.lowDen + j * s.highDen := by
    rw [hi, hj]
    linear_combination (-(n : Int)) * hneighbours
  have hm_eq : (m : Int) = i * s.lowNum + j * s.highNum := by
    rw [hi, hj]
    linear_combination (-(m : Int)) * hneighbours
  have hdist : (n * a : Int) - m * b =
      i * (s.lowDen * a - s.lowNum * b) - j * (s.highNum * b - s.highDen * a) := by
    rw [hn_eq, hm_eq]
    ring
  rw [hn_eq] at hn hbound
  rcases parts_cases (by positivity) (by positivity) hn (by omega) with
    ⟨rfl, hpos⟩ | ⟨rfl, hpos⟩ | hopposite
  · obtain ⟨c, rfl⟩ := Int.eq_ofNat_of_zero_le hpos.le
    rw [zero_mul, add_zero] at hn_eq hm_eq
    exact .inl ⟨c, by omega, by exact_mod_cast hn_eq, by exact_mod_cast hm_eq⟩
  · obtain ⟨c, rfl⟩ := Int.eq_ofNat_of_zero_le hpos.le
    rw [zero_mul, zero_add] at hn_eq hm_eq
    exact .inr (.inl ⟨c, by omega, by exact_mod_cast hn_eq, by exact_mod_cast hm_eq⟩)
  · refine .inr (.inr (hdistances.trans (mul_le_mul_of_nonneg_left ?_ (by positivity))))
    rw [hdist]
    exact add_le_abs_of_opposite (by omega) (by omega) hopposite

instance : Decidable (s.Encloses a b bound) :=
  decidable_of_iff (s.lowNum * b ≤ s.lowDen * a ∧ s.highDen * a ≤ s.highNum * b ∧
      s.highNum * s.lowDen = s.lowNum * s.highDen + 1 ∧ s.lowDen ≤ bound ∧ s.highDen ≤ bound ∧
      bound < s.lowDen + s.highDen)
    ⟨fun ⟨low, high, neighbours, hlow, hhigh, hlt⟩ => ⟨low, high, neighbours, hlow, hhigh, hlt⟩,
      fun ⟨low, high, neighbours, hlow, hhigh, hlt⟩ => ⟨low, high, neighbours, hlow, hhigh, hlt⟩⟩

/-! ## Search -/

/-- Moves the lower fraction up as far as the quotient and the bound allow, then the upper one
down. -/
def narrow (s : Bracket) (a b bound : Nat) : Bracket :=
  let below := s.lowDen * a - s.lowNum * b
  let above := s.highNum * b - s.highDen * a
  let up := min ((bound - s.lowDen) / s.highDen) (below / above)
  let lowNum := s.lowNum + up * s.highNum
  let lowDen := s.lowDen + up * s.highDen
  let below := below - up * above
  let room := (bound - s.highDen) / lowDen
  let down := if below = 0 then room else min room ((above - 1) / below)
  ⟨lowNum, lowDen, s.highNum + down * lowNum, s.highDen + down * lowDen⟩

/-- So many rounds of that. -/
def search (a b bound : Nat) : Nat → Bracket → Bracket
  | 0, s => s
  | fuel + 1, s => search a b bound fuel (s.narrow a b bound)

/-- The two neighbours around a quotient. -/
def around (a b bound : Nat) : Bracket :=
  search a b bound 40 ⟨a / b, 1, a / b + 1, 1⟩

end Bracket

/-! ## Powers of ten -/

namespace Decimal

/-- The exponent of the power of two below `10 ^ k`. -/
def binaryExponent (k : Int) : Int :=
  if 0 ≤ k then Nat.log2 (Nat.pow 10 k.toNat) else -(Nat.log2 (Nat.pow 10 (-k).toNat) : Int) - 1

/-- `10 ^ k` over half the power of two below it, as a fraction. -/
def ratioNum (k : Int) : Nat :=
  Nat.pow 10 k.toNat * Nat.pow 2 (1 - binaryExponent k).toNat

/-- Its denominator. -/
def ratioDen (k : Int) : Nat :=
  Nat.pow 10 (-k).toNat * Nat.pow 2 (binaryExponent k - 1).toNat

/-- The bound of the decimals. -/
def digitsBound : Nat := 0x1000000

/-- The bound of the binary numbers. -/
def bitsBound : Nat := 0x2000000

/-- How many times closer than its size a decimal may come. -/
def closeness : Nat := 0xFFFFFFFFFFFFF

/-- Whether a fraction stays away from `10 ^ k`, or meets it for a small `k` only, or is out of
bounds, or is the one that comes too near. -/
def isApart (k : Int) (num den : Nat) : Bool :=
  let a := ratioNum k
  let b := ratioDen k
  (den * a == num * b && -12 ≤ k && k ≤ 12) ||
    den * a < closeness * ((den * a - num * b) + (num * b - den * a)) || bitsBound ≤ num ||
    (k == -32 && den == 7038531 && num == 22841339)

/-- Whether both neighbours around `10 ^ k` stay away. -/
def isSeparated (k : Int) : Bool :=
  let s := Bracket.around (ratioNum k) (ratioDen k) digitsBound
  decide (s.Encloses (ratioNum k) (ratioDen k) digitsBound) &&
    isApart k s.lowNum s.lowDen && isApart k s.highNum s.highDen &&
    2 * ratioDen k ≤ ratioNum k && ratioNum k < 4 * ratioDen k

/-- All powers that matter are separated. -/
lemma isSeparated_of_mem {k : Int} (hk : -44 ≤ k) (hk' : k ≤ 38) : isSeparated k := by
  have hall : ∀ i < 83, isSeparated ((i : Nat) - 44) := by decide +kernel
  have hseparated := hall (k + 44).toNat (by omega)
  rwa [show (((k + 44).toNat : Nat) : Int) - 44 = k by omega] at hseparated

lemma natCast_distance (x y : Nat) : ((x - y : Nat) + (y - x : Nat) : Int) = |(x : Int) - y| := by
  rcases le_total x y with h | h
  · rw [abs_of_nonpos (by omega)]
    omega
  · rw [abs_of_nonneg (by omega)]
    omega

/-- So is a multiple of a fraction that is apart, if it is not out of bounds. -/
lemma isApart_cases {k : Int} {num den c : Nat} (h : isApart k num den) (hc : 0 < c)
    (hm : c * num < bitsBound) :
    (c * den * ratioNum k = c * num * ratioDen k ∧ -12 ≤ k ∧ k ≤ 12) ∨
      (c * den * ratioNum k : Int) <
        closeness * |(c * den * ratioNum k : Int) - c * num * ratioDen k| ∨
      (k = -32 ∧ c * den = 7038531 ∧ c * num = 22841339) := by
  simp only [isApart, Bool.or_eq_true, Bool.and_eq_true, beq_iff_eq, decide_eq_true_eq] at h
  rcases h with ((⟨⟨hequal, hk⟩, hk'⟩ | hapart) | hlarge) | ⟨⟨rfl, rfl⟩, rfl⟩
  · refine .inl ⟨?_, hk, hk'⟩
    rw [mul_assoc, hequal, mul_assoc]
  · refine .inr (.inl ?_)
    zify at hapart
    rw [natCast_distance, Nat.cast_mul, Nat.cast_mul] at hapart
    have hpos : (0 : Int) < c := by omega
    -- the common factor goes into both sides alike
    have hdist : |(c * den * ratioNum k : Int) - c * num * ratioDen k| =
        c * |(den * ratioNum k : Int) - num * ratioDen k| := by
      rw [mul_assoc, mul_assoc, ← mul_sub, abs_mul, abs_of_pos hpos]
    rw [hdist]
    calc (c * den * ratioNum k : Int) = c * (den * ratioNum k) := mul_assoc _ _ _
      _ < c * (closeness * |(den * ratioNum k : Int) - num * ratioDen k|) :=
        mul_lt_mul_of_pos_left hapart hpos
      _ = closeness * (c * |(den * ratioNum k : Int) - num * ratioDen k|) := mul_left_comm _ _ _
  · exact absurd hm (not_lt.mpr (hlarge.trans (Nat.le_mul_of_pos_left num hc)))
  · have hone : c = 1 := by
      unfold bitsBound at hm
      omega
    rw [hone]
    exact .inr (.inr ⟨rfl, rfl, rfl⟩)

/-- A fraction within the bounds meets `10 ^ k` for a small `k` only, and stays away from it
otherwise, except for one. -/
lemma ratio_cases {k : Int} {n m : Nat} (hk : -44 ≤ k) (hk' : k ≤ 38) (hn : 0 < n)
    (hdigits : n ≤ digitsBound) (hm : m < bitsBound) :
    (n * ratioNum k = m * ratioDen k ∧ -12 ≤ k ∧ k ≤ 12) ∨
      (n * ratioNum k : Int) < closeness * |(n * ratioNum k : Int) - m * ratioDen k| ∨
      (k = -32 ∧ n = 7038531 ∧ m = 22841339) := by
  have hseparated := isSeparated_of_mem hk hk'
  simp only [isSeparated, Bool.and_eq_true, decide_eq_true_eq] at hseparated
  obtain ⟨⟨⟨⟨hencloses, hlow⟩, hhigh⟩, hratio⟩, hratio'⟩ := hseparated
  generalize Bracket.around (ratioNum k) (ratioDen k) digitsBound = s at hencloses hlow hhigh
  rcases hencloses.cases (m := m) hn hdigits with ⟨c, hc, rfl, rfl⟩ | ⟨c, hc, rfl, rfl⟩ | hfar
  · simpa only [Nat.cast_mul] using isApart_cases hlow hc hm
  · simpa only [Nat.cast_mul] using isApart_cases hhigh hc hm
  · refine .inr (.inl ?_)
    have hn : (n : Int) ≤ 0x1000000 := by exact_mod_cast hdigits
    have hfar : (ratioDen k : Int) ≤ 0x1000000 * |(n * ratioNum k : Int) - m * ratioDen k| := hfar
    zify at hratio hratio'
    show (n * ratioNum k : Int) < 0xFFFFFFFFFFFFF * _
    generalize |(n * ratioNum k : Int) - m * ratioDen k| = dist at hfar ⊢
    have hle : (n * ratioNum k : Int) ≤ 0x1000000 * ratioNum k :=
      mul_le_mul_of_nonneg_right hn (by omega)
    omega

/-- The two sides of the ratio, over the same factor. -/
lemma exists_ratio (k : Int) : ∃ c : ℚ, 0 < c ∧ (ratioNum k : ℚ) = c * 10 ^ k ∧
    (ratioDen k : ℚ) = c * 2 ^ (binaryExponent k - 1) := by
  refine ⟨10 ^ (-k).toNat * 2 ^ (1 - binaryExponent k).toNat, by positivity, ?_, ?_⟩
  · rw [ratioNum, Nat.cast_mul, Format.cast_natPow, Format.cast_natPow, ten_zpow_eq]
    push_cast
    field_simp
  · rw [ratioDen, Nat.cast_mul, Format.cast_natPow, Format.cast_natPow, Format.two_zpow_eq,
      show -(binaryExponent k - 1) = 1 - binaryExponent k by ring]
    push_cast
    field_simp

/-- A decimal within the bounds equals a binary number for small exponents only, and stays away from
it otherwise, except for one. -/
theorem separation {k : Int} {n m : Nat} (hk : -44 ≤ k) (hk' : k ≤ 38) (hn : 0 < n)
    (hdigits : n ≤ digitsBound) (hm : m < bitsBound) :
    ((n * 10 ^ k : ℚ) = m * 2 ^ (binaryExponent k - 1) ∧ -12 ≤ k ∧ k ≤ 12) ∨
      (n * 10 ^ k : ℚ) < closeness * |(n * 10 ^ k : ℚ) - m * 2 ^ (binaryExponent k - 1)| ∨
      (k = -32 ∧ n = 7038531 ∧ m = 22841339) := by
  obtain ⟨c, hc, hnum, hden⟩ := exists_ratio k
  have hnum' : (n * ratioNum k : ℚ) = c * (n * 10 ^ k) := by rw [hnum]; ring
  have hden' : (m * ratioDen k : ℚ) = c * (m * 2 ^ (binaryExponent k - 1)) := by rw [hden]; ring
  rcases ratio_cases hk hk' hn hdigits hm with ⟨hequal, hsmall⟩ | hfar | hexception
  · refine .inl ⟨mul_left_cancel₀ hc.ne' ?_, hsmall⟩
    rw [← hnum', ← hden']
    exact_mod_cast hequal
  · refine .inr (.inl (lt_of_mul_lt_mul_left ?_ hc.le))
    have hfar : (n * ratioNum k : ℚ) < closeness * |(n * ratioNum k : ℚ) - m * ratioDen k| := by
      exact_mod_cast hfar
    rw [hnum', hden', ← mul_sub, abs_mul, abs_of_pos hc] at hfar
    exact hfar.trans_eq (mul_left_comm _ _ _)
  · exact .inr (.inr hexception)

/-- The power of two below a power of ten. -/
lemma binaryExponent_spec {k : Int} (hk : -44 ≤ k) (hk' : k ≤ 38) :
    (2 : ℚ) ^ binaryExponent k ≤ 10 ^ k ∧ (10 : ℚ) ^ k < 2 ^ (binaryExponent k + 1) := by
  have hseparated := isSeparated_of_mem hk hk'
  simp only [isSeparated, Bool.and_eq_true, decide_eq_true_eq] at hseparated
  obtain ⟨⟨-, hlow⟩, hhigh⟩ := hseparated
  obtain ⟨c, hc, hnum, hden⟩ := exists_ratio k
  have hlow : (2 * ratioDen k : ℚ) ≤ ratioNum k := by exact_mod_cast hlow
  have hhigh : (ratioNum k : ℚ) < 4 * ratioDen k := by exact_mod_cast hhigh
  rw [hnum, hden] at hlow hhigh
  constructor
  · refine le_of_mul_le_mul_left (le_of_eq_of_le ?_ hlow) hc
    rw [zpow_sub_one₀ two_ne_zero]
    ring
  · refine lt_of_mul_lt_mul_left (hhigh.trans_eq ?_) hc.le
    rw [zpow_sub_one₀ two_ne_zero, zpow_add_one₀ two_ne_zero]
    ring

end Decimal

end BulkWrite
