import BulkWrite.Decode.Decoder
import BulkWrite.Proofs.Json.Literals
import BulkWrite.Proofs.Json.Scaling
import BulkWrite.Proofs.Number.Singles

/-!
# Numbers of the 32-bit format come back

A number of the 32-bit format is written as its shortest decimal, which is read in the 64-bit format
and then narrowed. The two roundings of the reading move the decimal by very little, so that what is
read is narrowed to the number again (`single_reading`). The powers of two and two other numbers,
which the general argument leaves out, are evaluated. Main statement: `single_reading_iff`.
-/

namespace BulkWrite

namespace Format

/-- What lies next to a number of the 32-bit format is narrowed to it. -/
lemma single_ofBinary {m m' : Nat} {e e' : Int} (hnumber : single.IsNumber m e) (hm : 0 < m)
    (hgap : ¬(m = Nat.pow 2 (single.precision - 1) ∧ single.minExponent < e))
    (hnear : RoundsTo (m' * 2 ^ e') m e) :
    single.ofBinary (.finite false m' e') = .finite false m e := by
  have hm' : 0 < m' := by
    have hpos := hnear.pos hm
    by_contra hzero
    rw [Nat.eq_zero_of_not_pos hzero, Nat.cast_zero, zero_mul] at hpos
    exact hpos.false
  have hquotient := shiftLeft_div_shiftLeft m' 1 e'
  rw [Nat.cast_one, div_one] at hquotient
  rw [← hquotient] at hnear
  exact round_eq false (shiftLeft_pos hm' _) (shiftLeft_pos Nat.one_pos _) hnumber hgap (by decide)
    hnear

end Format

namespace Json

open Decimal

variable {m n : Nat} {e k : Int}

/-! ## From the text back -/

/-- What the text of a decimal is read as in the 64-bit format. -/
def spelled? (l : Layout) (d : Decimal) : Option Binary :=
  Literal.scale? (d.digits * Nat.pow 10 (zerosBehind l d)) (d.exponent - zerosBehind l d)

/-- A number comes back if its decimal is scaled, and to a number that is narrowed to it. -/
def ComesBack (m : Nat) (e : Int) : Prop :=
  let d := Format.single.shortest m e
  d.digits ≠ 0 ∧ d.digits * Nat.pow 10 (zerosBehind .single d) < Literal.significandBound ∧
    d.exponent.natAbs + (digitsOf d.digits).length ≤ Literal.exponentBound ∧
      (spelled? .single d).map Format.single.ofBinary = some (.finite false m e)

instance (m : Nat) (e : Int) : Decidable (ComesBack m e) :=
  inferInstanceAs (Decidable (_ ∧ _ ∧ _ ∧ _))

/-- The two numbers do come back. -/
lemma comesBack_of_isTooNear (h : IsTooNear m e) : ComesBack m e := by
  have hboth : ComesBack 11420669 (-107) ∧ ComesBack 11420670 (-107) := by decide +kernel
  obtain ⟨rfl, rfl | rfl⟩ := h
  · exact hboth.1
  · exact hboth.2

/-- So do the powers of two, whose intervals are narrower on one side. -/
lemma comesBack_of_power (he : -149 < e) (he' : e ≤ 104) : ComesBack 0x800000 e := by
  have hall : ∀ i < 253, ComesBack 0x800000 ((i : Nat) - 148) := by decide +kernel
  have hback := hall (e + 148).toNat (by omega)
  rwa [show (((e + 148).toNat : Nat) : Int) - 148 = e by omega] at hback

/-- Zeros are written behind the digits of a decimal only if it is a whole number, not too large. -/
lemma zerosBehind_cases (d : Decimal) : zerosBehind .single d = 0 ∨
    (zerosBehind .single d : Int) = d.exponent + 1 ∧
      zerosBehind .single d + (digitsOf d.digits).length ≤ 14 := by
  have hwritten : zerosBehind .single d =
      if -6 ≤ d.exponent + (digitsOf d.digits).length - 1 ∧
        d.exponent + (digitsOf d.digits).length - 1 ≤ 12 then (d.exponent + 1).toNat else 0 := rfl
  rw [hwritten]
  split <;> omega

/-- The digits of a spelling with the zeros behind them. -/
lemma significand_lt {d : Decimal} (hdigits : d.digits < 10 ^ 9) :
    d.digits * Nat.pow 10 (zerosBehind .single d) < Nat.pow 2 53 := by
  rcases Nat.eq_zero_or_pos d.digits with hzero | hpos
  · rw [hzero, Nat.zero_mul]
    decide
  obtain ⟨l, hlength, -, hlt⟩ := exists_length_digitsOf hpos
  rcases zerosBehind_cases d with hzeros | ⟨-, hzeros⟩
  · rw [hzeros]
    show d.digits * 1 < Nat.pow 2 53
    rw [Nat.mul_one]
    exact hdigits.trans (by decide)
  · rw [hlength] at hzeros
    calc d.digits * Nat.pow 10 (zerosBehind .single d)
        < 10 ^ (l + 1) * 10 ^ zerosBehind .single d :=
          Nat.mul_lt_mul_of_pos_right hlt (Nat.pow_pos (by decide))
      _ = 10 ^ (l + 1 + zerosBehind .single d) := (pow_add 10 _ _).symm
      _ ≤ 10 ^ 14 := Nat.pow_le_pow_right (by decide) (by omega)
      _ < Nat.pow 2 53 := by decide

/-- Zeros at the end do not count in a decimal. -/
lemma zeros_mul (n zeros : Nat) (k : Int) :
    ((n * 10 ^ zeros : Nat) * 10 ^ k : ℚ) = n * 10 ^ (k + zeros) := by
  rw [zpow_add₀ (by norm_num), zpow_natCast]
  push_cast
  ring

/-- A number comes back by what is near to its decimal. -/
lemma comesBack_of_found {zeros : Nat} (h : FoundFor n k m e)
    (hgap : ¬(m = Nat.pow 2 (Format.single.precision - 1) ∧ Format.single.minExponent < e))
    (hfar : ¬IsTooNear m e)
    (hdigits : n = (Format.single.shortest m e).digits * 10 ^ zeros)
    (hexponent : (Format.single.shortest m e).exponent = k + zeros) : ComesBack m e := by
  unfold ComesBack
  generalize Format.single.shortest m e = d at hdigits hexponent
  obtain ⟨hleast, hgreatest, -⟩ := h.exponent_bounds
  obtain ⟨hpos, hfew, hlength, hzeros⟩ := h.few_digits hdigits
  have hfits := significand_lt hfew
  -- with zeros behind its digits a decimal is written to one place, so the shift is small then
  have hshift : -60 ≤ d.exponent - zerosBehind .single d ∧
      d.exponent - zerosBehind .single d ≤ 60 ∧ (-12 ≤ k → k ≤ 12 →
        -22 ≤ d.exponent - zerosBehind .single d ∧
          d.exponent - zerosBehind .single d ≤ 22) := by
    rcases zerosBehind_cases d with hwritten | ⟨hwritten, -⟩ <;> omega
  obtain ⟨hshift, hshift', hsmall⟩ := hshift
  have hvalue : ((d.digits * Nat.pow 10 (zerosBehind .single d) : Nat) *
      10 ^ (d.exponent - zerosBehind .single d) : ℚ) = n * 10 ^ k := by
    rw [Nat.pow_eq, zeros_mul, sub_add_cancel, hdigits, zeros_mul, hexponent]
  have hsignificand : 0 < d.digits * Nat.pow 10 (zerosBehind .single d) :=
    Nat.mul_pos hpos (Nat.pow_pos (by decide))
  obtain ⟨m', e', hscale, herror, hexact⟩ := Literal.scale?_spec hsignificand hfits hshift hshift'
  -- the zeros on both sides do not count, so what is read is near to the decimal that was found
  rw [hvalue] at herror hexact
  have hread : Approximates n k (m' * 2 ^ e') :=
    ⟨herror, fun hk hk' => hexact (hsmall hk hk').1 (hsmall hk hk').2⟩
  refine ⟨hpos.ne', hfits.trans (by decide), ?_, ?_⟩
  · unfold Literal.exponentBound
    omega
  · rw [spelled?, hscale, Option.map_some,
      Format.single_ofBinary h.number h.pos hgap (h.roundsTo hfar hread)]

/-- Every number of the 32-bit format but zero comes back. -/
lemma comesBack (hnumber : Format.single.IsNumber m e) (hm : 0 < m) : ComesBack m e := by
  by_cases hgap : m = Nat.pow 2 (Format.single.precision - 1) ∧ Format.single.minExponent < e
  · rw [hgap.1]
    exact comesBack_of_power hgap.2 hnumber.greatest
  by_cases hfar : IsTooNear m e
  · exact comesBack_of_isTooNear hfar
  obtain ⟨n, zeros, k, hdigits, hexponent, hfound⟩ := exists_foundFor hnumber hm hgap
  exact comesBack_of_found hfound hgap hfar hdigits hexponent

/-- What comes back from the text of a number of the 32-bit format, with either sign. -/
theorem single_reading (hnumber : Format.single.IsNumber m e) (negative : Bool) :
    Decoder.single .json (Number.single (.finite negative m e)).reading =
      .ok (.finite negative m e) := by
  rcases Nat.eq_zero_or_pos m with rfl | hm
  · -- only the least exponent belongs to zero
    obtain rfl : e = -149 := hnumber.full.resolve_right (by decide)
    cases negative <;> decide
  obtain ⟨hdigits, hfits, hexponent, hback⟩ := comesBack hnumber hm
  obtain ⟨s, htext, hspells⟩ := exists_decimal .single (Format.single.shortest m e)
  obtain ⟨hsignificand, hshift, hmarked, hle⟩ := hspells hdigits
  rw [← hsignificand] at hfits
  have hvalue := value?_of_marked negative hmarked hfits (hle.trans hexponent)
  have hscale : Literal.scale? s.significand s.shift =
      spelled? .single (Format.single.shortest m e) := by
    rw [hsignificand, hshift, spelled?]
  obtain ⟨x, hx, hnarrow⟩ := Option.map_eq_some_iff.mp hback
  rw [hscale, hx, Option.map_some] at hvalue
  have hsigned : (Number.single (.finite negative m e)).text = signed negative s := by
    rw [Number.text, Layout.text, signed, ← htext]
    rfl
  rw [reading_of_literal hsigned hvalue]
  show Except.ok (Format.single.ofBinary (x.withSign negative)) = _
  rw [Format.ofBinary_withSign, hnarrow]
  rfl

/-- A number as a decoder for the 32-bit format brings it, if it is finite. -/
def IsSingle (x : Binary) : Prop :=
  ∀ negative m e, x = .finite negative m e → Format.single.IsNumber m e

lemma isSingle_round (negative : Bool) (num : Nat) {den : Nat} (hden : 0 < den) :
    IsSingle (Format.single.round negative num den) := by
  intro s m e h
  exact Format.isNumber_of_round hden (by decide) (by decide) h

/-- A decoder brings nothing else. -/
lemma isSingle_of_decode {doc : Document} {x : Binary}
    (h : Decoder.single .json doc = .ok x) : IsSingle x := by
  have hbinary (y : Binary) : IsSingle (Format.single.ofBinary y) := by
    cases y with
    | finite s m e => exact isSingle_round s _ (Format.shiftLeft_pos Nat.one_pos _)
    | infinite | notANumber => nofun
  cases doc with
  | number n =>
    cases n with
    | whole n =>
      obtain rfl := Except.ok.inj h
      exact isSingle_round _ _ Nat.one_pos
    | double y | single y =>
      obtain rfl := Except.ok.inj h
      exact hbinary y
  | null | bool | text | sequence | mapping | flawed => cases h

/-- A number of the 32-bit format is read back as itself if it is finite, and not at all if it is
not. -/
theorem single_reading_iff {x y : Binary} (hx : IsSingle x) :
    Decoder.single .json (Number.single x).reading = .ok y ↔
      y = x ∧ (Number.single x).isFinite := by
  cases x with
  | finite negative m e =>
    rw [single_reading (hx negative m e rfl) negative, Except.ok.injEq]
    exact ⟨fun h => ⟨h.symm, rfl⟩, fun h => h.1.symm⟩
  | infinite | notANumber =>
    rw [reading_of_not_finite rfl]
    constructor
    · nofun
    · nofun

end Json
end BulkWrite
