import BulkWrite.Json.Printer
import BulkWrite.Json.Reader
import BulkWrite.Proofs.Json.Values

/-!
# Reading the text of a number

Whatever number is written, its text is a literal: a sign perhaps, digits, perhaps places and an
exponent (`Spelling`), so a reader takes all of it, whatever follows (`readNumber_text`). What the
text is read as is another question (`Number.reading`): a whole number within a 64-bit word is read
as itself (`reading_of_isExact`), a binary number as one that is near, and a binary number without a
value as nothing at all.
-/

namespace BulkWrite.Json

/-! ## Digits -/

/-- The value of a decimal digit. -/
def digitOf (c : Char) : Nat := c.toNat - '0'.toNat

lemma le_foldl_digits (n : Nat) (ds : List Nat) : n ≤ ds.foldl (fun n d => n * 10 + d) n := by
  induction ds generalizing n with
  | nil => exact Nat.le_refl n
  | cons d ds ih =>
    have hle := ih (n * 10 + d)
    rw [List.foldl_cons]
    omega

/-- Digits all enter a significand that has room for the number that they form. -/
lemma absorb_of_lt {n : Nat} {ds : List Nat}
    (h : ds.foldl (fun n d => n * 10 + d) n < Literal.significandBound) :
    Literal.absorb n ds = (ds.foldl (fun n d => n * 10 + d) n, 0) := by
  induction ds generalizing n with
  | nil => rfl
  | cons d ds ih =>
    rw [List.foldl_cons] at h
    have hfits := Nat.lt_of_le_of_lt (le_foldl_digits (n * 10 + d) ds) h
    rw [Literal.absorb, if_pos hfits, ih h, List.foldl_cons]

/-- The digits of a number form it again. -/
lemma foldl_digitsOf (n : Nat) :
    ((Decimal.digitsOf n).map digitOf).foldl (fun n d => n * 10 + d) 0 = n := by
  have hdigits := Nat.ofDigitChars_ten_toDigits (n := n)
  rw [Nat.ofDigitChars_eq_foldl] at hdigits
  rw [List.foldl_map, Decimal.digitsOf]
  simpa only [digitOf, Nat.mul_comm] using hdigits

lemma isDigit_of_mem_digitsOf {n : Nat} {c : Char} (h : c ∈ Decimal.digitsOf n) : c.isDigit :=
  Nat.isDigit_of_mem_toDigits (by decide) (by decide) h

/-- No number but zero is written with a zero in front. -/
lemma digitsOf_ne_zero_cons {n : Nat} (hn : n ≠ 0) (cs : List Char) :
    Decimal.digitsOf n ≠ '0' :: cs := by
  intro h
  induction n using Nat.base_induction 10 (by decide) generalizing cs with
  | single n hlt =>
    rw [Decimal.digitsOf, Nat.toDigits_of_lt_base hlt] at h
    exact hn (Nat.digitChar_eq_zero.mp (List.cons.inj h).1)
  | digit n k hk hpos ih =>
    rw [Decimal.digitsOf, ← Nat.toDigits_append_toDigits (by decide) hpos hk] at h
    cases hdigits : Nat.toDigits 10 n with
    | nil => exact Nat.toDigits_ne_nil hdigits
    | cons c front =>
      rw [hdigits, List.cons_append] at h
      obtain ⟨rfl, -⟩ := List.cons.inj h
      exact ih (by omega) front hdigits

/-- The digits of a number do not start like any other value. -/
lemma exists_digitsOf (n : Nat) :
    ∃ c cs, Decimal.digitsOf n = c :: cs ∧ c.isDigit ∧ ∀ d ∈ cs, d.isDigit := by
  have hdigits (c : Char) (hmem : c ∈ Decimal.digitsOf n) := isDigit_of_mem_digitsOf hmem
  cases h : Decimal.digitsOf n with
  | nil => exact absurd h Nat.toDigits_ne_nil
  | cons c cs =>
    rw [h] at hdigits
    exact ⟨c, cs, rfl, hdigits c List.mem_cons_self,
      fun d hmem => hdigits d (List.mem_cons_of_mem c hmem)⟩

/-- A zero in front of a number stands alone. -/
lemma digitsOf_ne (n : Nat) (c : Char) (cs : List Char) : Decimal.digitsOf n ≠ '0' :: c :: cs := by
  by_cases hn : n = 0
  · subst hn
    rw [Decimal.digitsOf, Nat.toDigits_zero]
    intro h
    cases h
  · exact digitsOf_ne_zero_cons hn (c :: cs)

/-- No digit but the zero has the value zero. -/
lemma eq_zero_of_digitOf {c : Char} (hc : c.isDigit) (hzero : digitOf c = 0) : c = '0' := by
  obtain ⟨hlow, -⟩ : 48 ≤ c.toNat ∧ c.toNat ≤ 57 := Char.isDigit_iff_toNat.mp hc
  have hzero : c.toNat - 48 = 0 := hzero
  apply Char.toNat_inj.mp
  show c.toNat = 48
  omega

/-- A text does not go on with digits. -/
def NoDigit (rest : List Char) : Prop :=
  ∀ c cs, rest = c :: cs → c.isDigit = false

/-- The digits at the start of a text are read up to something else. -/
lemma readDigits_append {cs rest : List Char} (hdigits : ∀ c ∈ cs, c.isDigit)
    (hrest : NoDigit rest) : readDigits (cs ++ rest) = (cs.map digitOf, rest) := by
  induction cs with
  | nil =>
    cases rest with
    | nil => rfl
    | cons c rest =>
      have hc : ¬c.isDigit := by
        rw [hrest c rest rfl]
        exact Bool.false_ne_true
      rw [List.nil_append, readDigits, if_neg hc]
      rfl
  | cons c cs ih =>
    have hc : c.isDigit := hdigits c List.mem_cons_self
    have hcs := ih fun d hmem => hdigits d (List.mem_cons_of_mem c hmem)
    rw [List.cons_append, readDigits, if_pos hc, hcs]
    rfl

/-! ## Literals -/

/-- What stands behind a number does not go on with it. -/
def Ends (rest : List Char) : Prop :=
  ∀ c cs, rest = c :: cs → c = ',' ∨ c = ']' ∨ c = '\x7d'

lemma ends_cons {c : Char} (hc : c = ',' ∨ c = ']' ∨ c = '\x7d') (cs : List Char) :
    Ends (c :: cs) := by
  intro d ds h
  obtain ⟨rfl, -⟩ := List.cons.inj h
  exact hc

/-- The parts of a literal without its sign, as they are written. -/
structure Spelling where
  whole : List Char
  /-- What stands behind the point. -/
  places : Option (List Char)
  /-- Whether the exponent is negative, and its digits. -/
  exponent : Option (Bool × List Char)
  whole_digits : ∀ c ∈ whole, c.isDigit
  whole_ne : whole ≠ []
  /-- A leading zero stands alone. -/
  whole_lead : ∀ c cs, whole ≠ '0' :: c :: cs
  places_digits : ∀ ps, places = some ps → ps ≠ [] ∧ ∀ c ∈ ps, c.isDigit
  exponent_digits : ∀ e, exponent = some e → e.2 ≠ [] ∧ ∀ c ∈ e.2, c.isDigit

namespace Spelling

/-- The text of the exponent. -/
def exponentText (s : Spelling) : List Char :=
  match s.exponent with
  | some (negative, ds) => 'e' :: (if negative then '-' else '+') :: ds
  | none => []

/-- The text of the places. -/
def placesText (s : Spelling) : List Char :=
  match s.places with
  | some ps => '.' :: ps
  | none => []

/-- The text of the literal. -/
def text (s : Spelling) : List Char :=
  s.whole ++ s.placesText ++ s.exponentText

/-- The literal. -/
def literal (s : Spelling) (negative : Bool) : Literal where
  negative := negative
  digits := s.whole.map digitOf
  places := s.places.map (·.map digitOf)
  exponent := s.exponent.map fun (negative, ds) =>
    if negative then -(ofDigits (ds.map digitOf) : Int) else ofDigits (ds.map digitOf)

variable {s : Spelling} {rest : List Char}

lemma noDigit_of_ends (hends : Ends rest) : NoDigit rest := by
  intro c cs h
  rcases hends c cs h with rfl | rfl | rfl <;> rfl

lemma readExponentDigits_append {ds : List Char} (negative : Bool) (hne : ds ≠ [])
    (hdigits : ∀ c ∈ ds, c.isDigit) (hends : Ends rest) :
    readExponentDigits negative (ds ++ rest) =
      some (some (if negative then -(ofDigits (ds.map digitOf) : Int)
        else ofDigits (ds.map digitOf)), rest) := by
  obtain ⟨d, ds, rfl⟩ := List.exists_cons_of_ne_nil hne
  rw [readExponentDigits, readDigits_append hdigits (noDigit_of_ends hends), List.map_cons]

lemma readExponent_exponentText (negative : Bool) (hends : Ends rest) :
    readExponent (s.exponentText ++ rest) = some ((s.literal negative).exponent, rest) := by
  unfold exponentText literal
  cases hexponent : s.exponent with
  | none =>
    cases rest with
    | nil => rfl
    | cons c cs =>
      have hc : ¬(c = 'e' ∨ c = 'E') := by
        rcases hends c cs rfl with rfl | rfl | rfl <;> decide
      simp only [List.nil_append, readExponent, if_neg hc, Option.map_none]
  | some e =>
    obtain ⟨minus, ds⟩ := e
    obtain ⟨hne, hdigits⟩ := s.exponent_digits _ hexponent
    have hread := readExponentDigits_append minus hne hdigits hends
    simp only [List.cons_append, readExponent, true_or, if_true, Option.map_some]
    cases minus <;> exact hread

/-- What stands behind the places is neither a digit nor a point. -/
lemma exponentText_ends (hends : Ends rest) :
    ∀ c cs, s.exponentText ++ rest = c :: cs → c.isDigit = false ∧ c ≠ '.' := by
  intro c cs h
  unfold exponentText at h
  split at h
  · obtain ⟨rfl, -⟩ := List.cons.inj h
    decide
  · rcases hends c cs h with rfl | rfl | rfl <;> decide

lemma readPlaces_placesText (negative : Bool) (hends : Ends rest) :
    readPlaces (s.placesText ++ (s.exponentText ++ rest)) =
      some ((s.literal negative).places, s.exponentText ++ rest) := by
  have hnext := exponentText_ends (s := s) hends
  unfold placesText literal
  cases hplaces : s.places with
  | none =>
    rw [List.nil_append]
    unfold readPlaces
    split
    · rename_i heq
      exact absurd rfl (hnext _ _ heq).2
    · rfl
  | some ps =>
    obtain ⟨hne, hdigits⟩ := s.places_digits ps hplaces
    obtain ⟨d, ds, rfl⟩ := List.exists_cons_of_ne_nil hne
    have hread := readDigits_append hdigits fun c cs h => (hnext c cs h).1
    rw [List.cons_append, readPlaces, hread, List.map_cons]
    rfl

/-- The text of a literal is read as that literal. -/
lemma readUnsigned_text (negative : Bool) (hends : Ends rest) :
    readUnsigned negative (s.text ++ rest) = some (s.literal negative, rest) := by
  have hplaces : NoDigit (s.placesText ++ (s.exponentText ++ rest)) := by
    intro c cs h
    unfold placesText at h
    split at h
    · obtain ⟨rfl, -⟩ := List.cons.inj h
      rfl
    · exact (exponentText_ends hends c cs h).1
  have hwhole := readDigits_append s.whole_digits hplaces
  rw [text, List.append_assoc, List.append_assoc]
  unfold readUnsigned
  rw [hwhole]
  split
  · rename_i heq
    exact absurd (List.map_eq_nil_iff.mp (Prod.mk.inj heq).1) s.whole_ne
  · rename_i heq
    obtain ⟨c, cs, hwhole, hc, hcs⟩ := List.map_eq_cons_iff.mp (Prod.mk.inj heq).1
    obtain ⟨c', cs', rfl, -, -⟩ := List.map_eq_cons_iff.mp hcs
    have hdigit := s.whole_digits c (hwhole ▸ List.mem_cons_self)
    rw [eq_zero_of_digitOf hdigit hc] at hwhole
    exact absurd hwhole (s.whole_lead c' cs')
  · rename_i digits rest' _ _ heq
    obtain ⟨rfl, rfl⟩ := Prod.mk.inj heq
    rw [readPlaces_placesText negative hends]
    dsimp only
    rw [readExponent_exponentText negative hends]
    rfl

end Spelling

/-! ## The literals of numbers -/

/-- The digits of a whole number. -/
def Spelling.ofNat (n : Nat) : Spelling where
  whole := Decimal.digitsOf n
  places := none
  exponent := none
  whole_digits := fun _ => isDigit_of_mem_digitsOf
  whole_ne := Nat.toDigits_ne_nil
  whole_lead := digitsOf_ne n
  places_digits := nofun
  exponent_digits := nofun

lemma text_ofNat (n : Nat) : (Spelling.ofNat n).text = Decimal.digitsOf n := by
  simp [Spelling.text, Spelling.placesText, Spelling.exponentText, Spelling.ofNat]

/-- The digits of a literal as one number. -/
def Spelling.significand (s : Spelling) : Nat :=
  ofDigits ((s.whole ++ s.places.getD []).map digitOf)

/-- The power of ten that belongs to it. -/
def Spelling.shift (s : Spelling) : Int :=
  (s.literal false).exponent.getD 0 - (s.places.getD []).length

/-- A literal spells `n · 10 ^ k` if its digits are those of `n` with so many zeros behind them,
which count in its power of ten. It has a point or an exponent, so it is not taken for a whole
number. -/
structure Spelling.Spells (s : Spelling) (n : Nat) (k : Int) (zeros : Nat) : Prop where
  significand_eq : s.significand = n * Nat.pow 10 zeros
  shift_eq : s.shift = k - zeros
  marked : s.places.isSome ∨ s.exponent.isSome
  /-- Its exponent is that of the leading digit, if it has one. -/
  exponent_le : ((s.literal false).exponent.getD 0).natAbs ≤
    k.natAbs + (Decimal.digitsOf n).length

lemma ofDigits_append (ds es : List Nat) :
    ofDigits (ds ++ es) = es.foldl (fun n d => n * 10 + d) (ofDigits ds) :=
  List.foldl_append

lemma ofDigits_digitsOf (n : Nat) : ofDigits ((Decimal.digitsOf n).map digitOf) = n :=
  foldl_digitsOf n

lemma foldl_zeros (n zeros : Nat) :
    ((List.replicate zeros '0').map digitOf).foldl (fun n d => n * 10 + d) n =
      n * Nat.pow 10 zeros := by
  induction zeros generalizing n with
  | zero => exact (Nat.mul_one n).symm
  | succ zeros ih =>
    rw [List.replicate_succ, List.map_cons, List.foldl_cons, ih]
    show (n * 10 + 0) * Nat.pow 10 zeros = n * (Nat.pow 10 zeros * 10)
    rw [Nat.add_zero, Nat.mul_assoc, Nat.mul_comm 10]

/-- Places are filled up with zeros in front of them. -/
lemma exists_written_of_neg {n : Nat} {e : Int} (he : e < 0) :
    ∃ s : Spelling, Layout.written (Decimal.digitsOf n) e = s.text ∧
      s.Spells n (e - (Decimal.digitsOf n).length + 1) 0 := by
  have hdigits : ∀ c ∈ List.replicate (-e - 1).toNat '0' ++ Decimal.digitsOf n, c.isDigit := by
    intro c hmem
    rcases List.mem_append.mp hmem with hmem | hmem
    · rw [List.eq_of_mem_replicate hmem]
      rfl
    · exact isDigit_of_mem_digitsOf hmem
  have hne : List.replicate (-e - 1).toNat '0' ++ Decimal.digitsOf n ≠ [] := by
    intro h
    exact Nat.toDigits_ne_nil (List.append_eq_nil_iff.mp h).2
  refine ⟨⟨['0'], some (List.replicate (-e - 1).toNat '0' ++ Decimal.digitsOf n), none, ?_, ?_, ?_,
    ?_, nofun⟩, ?_, ?_, ?_, .inl rfl, Nat.zero_le _⟩
  · intro c hmem
    rw [List.mem_singleton.mp hmem]
    rfl
  · exact List.cons_ne_nil _ _
  · intro c cs h
    cases h
  · rintro ps ⟨⟩
    exact ⟨hne, hdigits⟩
  · rw [Layout.written, if_pos he]
    simp [Spelling.text, Spelling.placesText, Spelling.exponentText]
  · show ofDigits ((['0'] ++ (List.replicate (-e - 1).toNat '0' ++ Decimal.digitsOf n)).map
      digitOf) = n * 1
    have hzeros : ofDigits ((List.replicate ((-e - 1).toNat + 1) '0').map digitOf) = 0 :=
      (foldl_zeros 0 _).trans (Nat.zero_mul _)
    rw [← List.append_assoc, List.map_append, ofDigits_append, List.singleton_append,
      ← List.replicate_succ, hzeros, foldl_digitsOf, Nat.mul_one]
  · show 0 - ((List.replicate (-e - 1).toNat '0' ++ Decimal.digitsOf n).length : Int) = _
    rw [List.length_append, List.length_replicate]
    omega

/-- Digits in front of the point are filled up with zeros behind them. -/
lemma exists_written_of_length_le {n : Nat} {e : Int} (he : ¬e < 0) (hzero : n = 0 → e = 0)
    (hlength : (Decimal.digitsOf n).length ≤ e.toNat + 1) :
    ∃ s : Spelling, Layout.written (Decimal.digitsOf n) e = s.text ∧
      s.Spells n (e - (Decimal.digitsOf n).length + 1)
        (e.toNat + 1 - (Decimal.digitsOf n).length + 1) := by
  have hdigits : ∀ c ∈ Decimal.digitsOf n ++
      List.replicate (e.toNat + 1 - (Decimal.digitsOf n).length) '0', c.isDigit := by
    intro c hmem
    rcases List.mem_append.mp hmem with hmem | hmem
    · exact isDigit_of_mem_digitsOf hmem
    · rw [List.eq_of_mem_replicate hmem]
      rfl
  -- zeros fill up the digits in front of the point, and one zero stands behind it
  refine ⟨⟨Decimal.digitsOf n ++ List.replicate (e.toNat + 1 - (Decimal.digitsOf n).length) '0',
    some ['0'], none, hdigits, ?_, ?_, ?_, nofun⟩, ?_, ?_, ?_, .inl rfl, Nat.zero_le _⟩
  · intro h
    exact Nat.toDigits_ne_nil (List.append_eq_nil_iff.mp h).1
  · intro c cs h
    by_cases hn : n = 0
    · rw [hzero hn, hn, Decimal.digitsOf, Nat.toDigits_zero] at h
      cases h
    · obtain ⟨d, ds, hd, -⟩ := exists_digitsOf n
      rw [hd, List.cons_append] at h
      obtain ⟨rfl, -⟩ := List.cons.inj h
      exact digitsOf_ne_zero_cons hn ds hd
  · rintro ps ⟨⟩
    refine ⟨List.cons_ne_nil _ _, fun c hmem => ?_⟩
    rw [List.mem_singleton.mp hmem]
    rfl
  · have hdrop : (Decimal.digitsOf n).drop (e.toNat + 1) = [] := List.drop_eq_nil_iff.mpr hlength
    rw [Layout.written, if_neg he]
    simp [Spelling.text, Spelling.placesText, Spelling.exponentText, hdrop,
      List.take_of_length_le hlength]
  · have hvalue := ofDigits_digitsOf n
    show ofDigits ((Decimal.digitsOf n ++ List.replicate _ '0' ++ List.replicate 1 '0').map
      digitOf) = _
    rw [List.append_assoc, List.replicate_append_replicate, List.map_append, ofDigits_append,
      hvalue, foldl_zeros]
  · show (0 : Int) - 1 = _
    omega

/-- The point stands between the digits. -/
lemma exists_written_of_lt_length {n : Nat} {e : Int} (he : ¬e < 0)
    (hlength : e.toNat + 1 < (Decimal.digitsOf n).length) :
    ∃ s : Spelling, Layout.written (Decimal.digitsOf n) e = s.text ∧
      s.Spells n (e - (Decimal.digitsOf n).length + 1) 0 := by
  have hplaces : (Decimal.digitsOf n).drop (e.toNat + 1) ≠ [] := by
    intro h
    have := List.drop_eq_nil_iff.mp h
    omega
  have hwhole : (Decimal.digitsOf n).take (e.toNat + 1) ++
      List.replicate (e.toNat + 1 - (Decimal.digitsOf n).length) '0' =
        (Decimal.digitsOf n).take (e.toNat + 1) := by
    rw [show e.toNat + 1 - (Decimal.digitsOf n).length = 0 by omega]
    exact List.append_nil _
  refine ⟨⟨(Decimal.digitsOf n).take (e.toNat + 1), some ((Decimal.digitsOf n).drop (e.toNat + 1)),
    none, ?_, ?_, ?_, ?_, nofun⟩, ?_, ?_, ?_, .inl rfl, Nat.zero_le _⟩
  · exact fun c hmem => isDigit_of_mem_digitsOf (List.mem_of_mem_take hmem)
  · intro h
    rcases List.take_eq_nil_iff.mp h with h | h
    · omega
    · exact Nat.toDigits_ne_nil h
  · intro c cs h
    have hsplit := List.take_append_drop (e.toNat + 1) (Decimal.digitsOf n)
    rw [h] at hsplit
    exact digitsOf_ne n c _ hsplit.symm
  · rintro ps ⟨⟩
    exact ⟨hplaces, fun c hmem => isDigit_of_mem_digitsOf (List.mem_of_mem_drop hmem)⟩
  · rw [Layout.written, if_neg he]
    simp only [hwhole, List.isEmpty_iff, if_neg hplaces]
    simp [Spelling.text, Spelling.placesText, Spelling.exponentText]
  · show ofDigits (((Decimal.digitsOf n).take _ ++ (Decimal.digitsOf n).drop _).map digitOf) = n * 1
    rw [List.take_append_drop, ofDigits_digitsOf, Nat.mul_one]
  · show 0 - (((Decimal.digitsOf n).drop (e.toNat + 1)).length : Int) = _
    rw [List.length_drop]
    omega

/-- An exponent stands behind the digits. -/
lemma exists_scientific (n : Nat) (e : Int) :
    ∃ s : Spelling, Layout.scientific (Decimal.digitsOf n) e = s.text ∧
      s.Spells n (e - (Decimal.digitsOf n).length + 1) 0 := by
  have hvalue := ofDigits_digitsOf n
  have hexponent := ofDigits_digitsOf e.natAbs
  obtain ⟨d, ds, hdigits, hd, hds⟩ := exists_digitsOf n
  rw [hdigits] at hvalue ⊢
  have hsign : (if decide (e < 0) then -(ofDigits ((Decimal.digitsOf e.natAbs).map digitOf) : Int)
      else ofDigits ((Decimal.digitsOf e.natAbs).map digitOf)) = e := by
    rw [hexponent]
    simp only [decide_eq_true_eq]
    split <;> omega
  -- one digit in front of the point, the others behind it if there are any
  refine ⟨⟨[d], if ds = [] then none else some ds,
    some (decide (e < 0), Decimal.digitsOf e.natAbs), ?_, ?_, ?_, ?_, ?_⟩,
    ?_, ?_, ?_, .inr rfl, ?_⟩
  · intro c hmem
    rw [List.mem_singleton.mp hmem]
    exact hd
  · exact List.cons_ne_nil _ _
  · intro c cs h
    cases h
  · intro ps h
    split at h
    · cases h
    · rename_i hne
      obtain rfl := Option.some.inj h
      exact ⟨hne, hds⟩
  · rintro e ⟨⟩
    exact ⟨Nat.toDigits_ne_nil, fun c => isDigit_of_mem_digitsOf⟩
  · cases ds <;> simp [Layout.scientific, Spelling.text, Spelling.placesText, Spelling.exponentText]
  · have hparts : [d] ++ (if ds = [] then none else some ds).getD [] = d :: ds := by
      cases ds <;> rfl
    show ofDigits (([d] ++ (if ds = [] then none else some ds).getD []).map digitOf) = n * 1
    rw [hparts, hvalue, Nat.mul_one]
  · have hlength : ((if ds = [] then none else some ds).getD []).length = ds.length := by
      cases ds <;> rfl
    show (if decide (e < 0) then -(ofDigits ((Decimal.digitsOf e.natAbs).map digitOf) : Int)
      else ofDigits ((Decimal.digitsOf e.natAbs).map digitOf)) - _ = _
    rw [hlength, hsign, List.length_cons]
    omega
  · show (if decide (e < 0) then -(ofDigits ((Decimal.digitsOf e.natAbs).map digitOf) : Int)
      else ofDigits ((Decimal.digitsOf e.natAbs).map digitOf)).natAbs ≤ _
    rw [hsign, hdigits, List.length_cons]
    omega

lemma exists_written {n : Nat} {e k : Int} (hzero : n = 0 → e = 0)
    (hk : k = e - (Decimal.digitsOf n).length + 1) :
    ∃ s : Spelling, Layout.written (Decimal.digitsOf n) e = s.text ∧
      s.Spells n k (k + 1).toNat := by
  subst hk
  have hne : 0 < (Decimal.digitsOf n).length := List.length_pos_iff.mpr Nat.toDigits_ne_nil
  by_cases he : e < 0
  · obtain ⟨s, htext, hspells⟩ := exists_written_of_neg (n := n) he
    refine ⟨s, htext, ?_⟩
    rwa [show (e - (Decimal.digitsOf n).length + 1 + 1).toNat = 0 by omega]
  · by_cases hlength : (Decimal.digitsOf n).length ≤ e.toNat + 1
    · obtain ⟨s, htext, hspells⟩ := exists_written_of_length_le he hzero hlength
      refine ⟨s, htext, ?_⟩
      rwa [show (e - (Decimal.digitsOf n).length + 1 + 1).toNat =
        e.toNat + 1 - (Decimal.digitsOf n).length + 1 by omega]
    · obtain ⟨s, htext, hspells⟩ := exists_written_of_lt_length he (Nat.lt_of_not_le hlength)
      refine ⟨s, htext, ?_⟩
      rwa [show (e - (Decimal.digitsOf n).length + 1 + 1).toNat = 0 by omega]

/-- How many zeros a layout writes behind the digits of a decimal: in place one behind the point,
and those up to it. -/
def zerosBehind (l : Layout) (d : Decimal) : Nat :=
  match l.inPlace with
  | none => (d.exponent + 1).toNat
  | some (least, greatest) =>
    let exponent := d.exponent + (Decimal.digitsOf d.digits).length - 1
    if least ≤ exponent ∧ exponent ≤ greatest then (d.exponent + 1).toNat else 0

/-- Every decimal is written as a literal, which spells it if it is not zero. -/
lemma exists_decimal (l : Layout) (d : Decimal) : ∃ s : Spelling, l.decimal d = s.text ∧
    (d.digits ≠ 0 → s.Spells d.digits d.exponent (zerosBehind l d)) := by
  by_cases hdigits : d.digits = 0
  · obtain ⟨s, htext, -⟩ := exists_written (n := d.digits) (e := 0) (fun _ => rfl) rfl
    obtain ⟨s', htext', -⟩ := exists_scientific d.digits 0
    unfold Layout.decimal
    dsimp only
    rw [if_pos hdigits]
    cases l.inPlace with
    | none => exact ⟨s, htext, absurd hdigits⟩
    | some bounds =>
      dsimp only
      split
      · exact ⟨s, htext, absurd hdigits⟩
      · exact ⟨s', htext', absurd hdigits⟩
  · generalize hexponent : d.exponent + (Decimal.digitsOf d.digits).length - 1 = e
    have hk : d.exponent = e - (Decimal.digitsOf d.digits).length + 1 := by omega
    obtain ⟨s, htext, hspells⟩ := exists_written (fun hzero => absurd hzero hdigits) hk
    obtain ⟨s', htext', hspells'⟩ := exists_scientific d.digits e
    rw [← hk] at hspells'
    unfold Layout.decimal zerosBehind
    dsimp only
    rw [if_neg hdigits, hexponent]
    cases l.inPlace with
    | none => exact ⟨s, htext, fun _ => hspells⟩
    | some bounds =>
      dsimp only
      split
      · exact ⟨s, htext, fun _ => hspells⟩
      · exact ⟨s', htext', fun _ => hspells'⟩

/-! ## Numbers -/

/-- The text of a literal with its sign. -/
def signed (negative : Bool) (s : Spelling) : List Char :=
  (if negative then ['-'] else []) ++ s.text

lemma text_natural (n : Nat) : (Number.whole (.ofNat n)).text = signed false (.ofNat n) :=
  (text_ofNat n).symm

lemma text_negative (n : Nat) : (Number.whole (.negSucc n)).text = signed true (.ofNat (n + 1)) :=
  congrArg ('-' :: ·) (text_ofNat (n + 1)).symm

/-- A number that has a value. -/
def Number.isFinite : Number → Bool
  | .whole _ | .double (.finite ..) | .single (.finite ..) => true
  | _ => false

/-- Its text is a literal. -/
lemma exists_signed {n : Number} (h : n.isFinite) : ∃ negative s, n.text = signed negative s := by
  cases n with
  | whole n =>
    cases n with
    | ofNat n => exact ⟨false, .ofNat n, text_natural n⟩
    | negSucc n => exact ⟨true, .ofNat (n + 1), text_negative n⟩
  | double x =>
    cases x with
    | finite negative m e =>
      obtain ⟨s, hs, -⟩ := exists_decimal .double (Layout.double.format.shortest m e)
      exact ⟨negative, s, by rw [Number.text, Layout.text, hs, signed]⟩
    | _ => cases h
  | single x =>
    cases x with
    | finite negative m e =>
      obtain ⟨s, hs, -⟩ := exists_decimal .single (Layout.single.format.shortest m e)
      exact ⟨negative, s, by rw [Number.text, Layout.text, hs, signed]⟩
    | _ => cases h

/-- A sign or a digit is no other character. -/
lemma ne_of_starts {c other : Char} (hc : c = '-' ∨ c.isDigit)
    (hother : other ≠ '-' ∧ other.isDigit = false) : c ≠ other := by
  rintro rfl
  rcases hc with hc | hc
  · exact hother.1 hc
  · rw [hother.2] at hc
    cases hc

lemma isSpace_of_starts {c : Char} (hc : c = '-' ∨ c.isDigit) : isSpace c = false := by
  have hspace := ne_of_starts hc (show ' ' ≠ '-' ∧ ' '.isDigit = false by decide)
  have htab := ne_of_starts hc (show '\t' ≠ '-' ∧ '\t'.isDigit = false by decide)
  have hline := ne_of_starts hc (show '\n' ≠ '-' ∧ '\n'.isDigit = false by decide)
  have hreturn := ne_of_starts hc (show '\r' ≠ '-' ∧ '\r'.isDigit = false by decide)
  simp [isSpace, hspace, htab, hline, hreturn]

lemma exists_signed_cons (negative : Bool) (s : Spelling) :
    ∃ c cs, signed negative s = c :: cs ∧ (c = '-' ∨ c.isDigit) := by
  obtain ⟨d, ds, hwhole⟩ := List.exists_cons_of_ne_nil s.whole_ne
  have hd : d.isDigit := s.whole_digits d (hwhole ▸ List.mem_cons_self)
  cases negative with
  | true => exact ⟨'-', _, rfl, .inl rfl⟩
  | false =>
    refine ⟨d, ds ++ s.placesText ++ s.exponentText, ?_, .inr hd⟩
    simp [signed, Spelling.text, hwhole]

/-- A number starts with its sign or a digit. -/
lemma exists_text {n : Number} (h : n.isFinite) :
    ∃ c cs, n.text = c :: cs ∧ (c = '-' ∨ c.isDigit) := by
  obtain ⟨negative, s, htext⟩ := exists_signed h
  rw [htext]
  exact exists_signed_cons negative s

lemma readLiteral_signed (negative : Bool) (s : Spelling) {rest : List Char} (hends : Ends rest) :
    readLiteral (signed negative s ++ rest) = some (s.literal negative, rest) := by
  cases negative with
  | true => exact s.readUnsigned_text true hends
  | false =>
    -- a digit is no sign
    have hstart : ∀ cs, signed false s ++ rest ≠ '-' :: cs := by
      obtain ⟨d, ds, hwhole⟩ := List.exists_cons_of_ne_nil s.whole_ne
      have hd : d.isDigit := s.whole_digits d (hwhole ▸ List.mem_cons_self)
      intro cs h
      simp only [signed, Spelling.text, hwhole, Bool.false_eq_true, if_false, List.nil_append,
        List.cons_append] at h
      rw [(List.cons.inj h).1] at hd
      cases hd
    unfold readLiteral
    split
    · rename_i cs heq
      exact absurd heq (hstart cs)
    · exact s.readUnsigned_text false hends

/-- The document that the text of a number is read as. -/
def Number.reading (n : Number) : Document :=
  ((readNumber n.text).map Prod.fst).getD .null

lemma ends_nil : Ends [] := fun c cs h => by cases h

/-- A number is read to its end, whatever follows. -/
theorem readNumber_text {n : Number} (h : n.isFinite) {rest : List Char} (hends : Ends rest) :
    readNumber (n.text ++ rest) = some (n.reading, rest) := by
  obtain ⟨negative, s, htext⟩ := exists_signed h
  have hread {rest : List Char} (hends : Ends rest) := readLiteral_signed negative s hends
  have hreading := hread ends_nil
  rw [List.append_nil] at hreading
  rw [Number.reading, htext, readNumber, readNumber, hread hends, hreading]
  rfl

/-- A binary number without a value has the text of no value. -/
lemma text_of_not_finite {n : Number} (h : n.isFinite = false) : n.text = ['n', 'u', 'l', 'l'] := by
  cases n with
  | whole n => cases h
  | double x | single x =>
    cases x with
    | finite => cases h
    | infinite | notANumber => rfl

lemma reading_of_not_finite {n : Number} (h : n.isFinite = false) : n.reading = .null := by
  rw [Number.reading, text_of_not_finite h]
  rfl

/-- A literal of so few digits is the number that they form, with its sign. -/
lemma value?_digitsOf {n : Nat} (hn : n < Literal.significandBound) (negative : Bool)
    (hsigned : negative → n ≠ 0 ∧ n ≤ Literal.significandBound / 2) :
    (⟨negative, (Decimal.digitsOf n).map digitOf, none, none⟩ : Literal).value? =
      some (.whole (if negative then -n else n)) := by
  have habsorb : Literal.absorb 0 ((Decimal.digitsOf n).map digitOf) = (n, 0) := by
    rw [absorb_of_lt (by rwa [foldl_digitsOf]), foldl_digitsOf]
  unfold Literal.value?
  simp only [habsorb]
  cases negative with
  | false => rfl
  | true =>
    obtain ⟨hzero, hhalf⟩ := hsigned rfl
    have hfits : ¬(n = 0 ∨ Literal.significandBound / 2 < n) := by omega
    simp only [if_neg hfits]
    rfl

/-- The digits in front of the point all enter the significand if there is room for all digits, and
then those behind it. -/
lemma absorb_parts {s : Spelling} (hfits : s.significand < Literal.significandBound) :
    Literal.absorb 0 (s.whole.map digitOf) = (ofDigits (s.whole.map digitOf), 0) ∧
      Literal.absorb (ofDigits (s.whole.map digitOf)) ((s.places.getD []).map digitOf) =
        (s.significand, 0) := by
  have hsplit : ((s.places.getD []).map digitOf).foldl (fun n d => n * 10 + d)
      (ofDigits (s.whole.map digitOf)) = s.significand := by
    rw [Spelling.significand, List.map_append, ofDigits_append]
  have hle := le_foldl_digits (ofDigits (s.whole.map digitOf)) ((s.places.getD []).map digitOf)
  rw [hsplit] at hle
  constructor
  · exact absorb_of_lt (Nat.lt_of_le_of_lt hle hfits)
  · rw [← hsplit] at hfits ⊢
    exact absorb_of_lt hfits

/-- All places count in the power of ten then. -/
lemma binary?_literal {s : Spelling} (negative : Bool) {shift : Int}
    (hshift : shift = -((s.places.getD []).length : Int))
    (hexponent : ((s.literal false).exponent.getD 0).natAbs ≤ Literal.exponentBound) :
    (s.literal negative).binary? s.significand shift =
      (Literal.scale? s.significand s.shift).map fun x => .double (x.withSign negative) := by
  have hsum : shift + (s.literal false).exponent.getD 0 = s.shift := by
    unfold Spelling.shift
    omega
  have hexponent : ((s.literal negative).exponent.getD 0).natAbs ≤ Literal.exponentBound :=
    hexponent
  unfold Literal.binary?
  dsimp only
  rw [if_pos hexponent, ← hsum]
  rfl

/-- A literal with a point or an exponent is scaled, if its digits fit and its exponent does. -/
lemma value?_of_marked {s : Spelling} (negative : Bool)
    (hmarked : s.places.isSome ∨ s.exponent.isSome)
    (hfits : s.significand < Literal.significandBound)
    (hexponent : ((s.literal false).exponent.getD 0).natAbs ≤ Literal.exponentBound) :
    (s.literal negative).value? =
      (Literal.scale? s.significand s.shift).map fun x => .double (x.withSign negative) := by
  obtain ⟨hwhole, hplaces⟩ := absorb_parts hfits
  have hbinary {shift : Int} (hshift : shift = -((s.places.getD []).length : Int)) :=
    binary?_literal negative hshift hexponent
  have hdigits : (s.literal negative).digits = s.whole.map digitOf := rfl
  have hparts : (s.literal negative).places = s.places.map (·.map digitOf) := rfl
  unfold Literal.value?
  rw [hdigits, hwhole, hparts]
  cases hsome : s.places with
  | none =>
    rw [hsome] at hmarked hplaces hbinary
    -- without a point there is an exponent, and all digits stand in front
    obtain ⟨e, he⟩ := Option.isSome_iff_exists.mp (hmarked.resolve_left Bool.false_ne_true)
    obtain ⟨i, hi⟩ : ∃ i, (s.literal negative).exponent = some i := by
      rw [Spelling.literal, he]
      exact ⟨_, rfl⟩
    have hall : ofDigits (s.whole.map digitOf) = s.significand := congrArg Prod.fst hplaces
    rw [hall]
    dsimp only [Option.map_none]
    rw [hi]
    exact hbinary rfl
  | some ps =>
    rw [hsome] at hplaces hbinary
    show (s.literal negative).binary?
      (Literal.absorb (ofDigits (s.whole.map digitOf)) (ps.map digitOf)).1
      ((Literal.absorb (ofDigits (s.whole.map digitOf)) (ps.map digitOf)).2 -
        (ps.map digitOf).length) = _
    have hplaces : Literal.absorb (ofDigits (s.whole.map digitOf)) (ps.map digitOf) =
        (s.significand, 0) := hplaces
    rw [hplaces, List.length_map]
    exact hbinary (Int.zero_sub _)

/-- A number is read as the one that its literal denotes. -/
lemma reading_of_literal {n v : Number} {negative : Bool} {s : Spelling}
    (htext : n.text = signed negative s) (hvalue : (s.literal negative).value? = some v) :
    n.reading = .number v := by
  have hread := readLiteral_signed negative s ends_nil
  rw [List.append_nil] at hread
  rw [Number.reading, htext, readNumber, hread, Option.map_some]
  simp only [hvalue]
  rfl

/-- A number in a 64-bit word is read as it was written. -/
lemma reading_of_isExact {n : Number} (h : n.isExact) : n.reading = .number n := by
  cases n with
  | whole n =>
    rw [Number.isExact, Bool.and_eq_true, decide_eq_true_eq, decide_eq_true_eq] at h
    cases n with
    | ofNat n =>
      have hn : n < Literal.significandBound := Int.ofNat_lt.mp h.2
      exact reading_of_literal (text_natural n) (value?_digitsOf hn false (by simp))
    | negSucc n =>
      have hn : n + 1 ≤ 0x8000000000000000 := by omega
      have hfits : n + 1 < Literal.significandBound := by
        unfold Literal.significandBound UInt64.size
        omega
      have hhalf : n + 1 ≤ Literal.significandBound / 2 := hn
      exact reading_of_literal (text_negative n)
        (value?_digitsOf hfits true fun _ => ⟨Nat.succ_ne_zero n, hhalf⟩)
  | double | single => cases h

end BulkWrite.Json
