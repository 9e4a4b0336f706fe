import Mathlib.Data.String.Basic
import Mathlib.Tactic.Lemma
import BulkWrite.Fault

/-!
# Texts that a fault keeps

A fault keeps a text of up to 512 bytes as it is. Of a longer one it keeps the first 509 characters
with an ellipsis behind them. The bound is one of bytes and the cut is one of characters, so they
agree only as long as each of these characters takes one byte.

What is promised of a kept text is `Fault.IsAbridged`. Main statement: it holds just for short texts
and for those that are plain up to the cut, and what holds of all others
(`Fault.isAbridged_bounded_iff`).
-/

namespace BulkWrite

/-! ## Bytes and characters -/

section

open String

variable {cs : List Char}

/-- A character takes one byte at least. -/
lemma length_le_utf8Len (cs : List Char) : cs.length ≤ utf8Len cs := by
  induction cs with
  | nil => exact Nat.le_refl 0
  | cons c cs ih =>
    have hc := c.utf8Size_pos
    rw [List.length_cons, utf8Len_cons]
    omega

/-- It takes four bytes at most. -/
lemma utf8Len_le (cs : List Char) : utf8Len cs ≤ 4 * cs.length := by
  induction cs with
  | nil => exact Nat.le_refl 0
  | cons c cs ih =>
    have hc := c.utf8Size_le_four
    rw [List.length_cons, utf8Len_cons]
    omega

/-- There are no more bytes than characters just when each character takes one byte. -/
lemma utf8Len_le_length_iff : utf8Len cs ≤ cs.length ↔ ∀ c ∈ cs, c.utf8Size = 1 := by
  induction cs with
  | nil => simp
  | cons c cs ih =>
    have hc := c.utf8Size_pos
    have hcs := length_le_utf8Len cs
    rw [List.length_cons, utf8Len_cons, List.forall_mem_cons, ← ih]
    omega

end

namespace Fault

/-! ## Short and long texts -/

/-- How many characters of a long text are kept. -/
def room : Nat := detailBound - ellipsis.length

/-- The part of a long text that is kept. -/
def front (s : String) : String := .ofList (s.toList.take room)

/-- The part of a long text that is cut off. -/
def back (s : String) : String := .ofList (s.toList.drop room)

/-- A text is plain up to the cut: there is something behind the cut, and each character in front of
it takes one byte. -/
structure IsPlainlyCut (s : String) : Prop where
  back_ne : back s ≠ ""
  plain : ∀ c ∈ (front s).toList, c.utf8Size = 1

variable {s : String}

lemma front_append_back (s : String) : front s ++ back s = s := by
  rw [front, back, ← String.ofList_append, List.take_append_drop, String.ofList_toList]

lemma length_front (s : String) : (front s).length = min room s.length := by
  rw [front, String.length_ofList, List.length_take, String.length_toList]

lemma back_ne_iff : back s ≠ "" ↔ room < s.length := by
  have hback : (back s).toList = s.toList.drop room := String.toList_ofList
  rw [← String.length_toList, ne_eq, ← String.toList_eq_nil_iff, hback, List.drop_eq_nil_iff]
  omega

/-- The bytes of a text are those in front of the cut and those behind it. -/
lemma size_eq (s : String) : s.utf8ByteSize = (front s).utf8ByteSize + (back s).utf8ByteSize := by
  rw [← String.utf8ByteSize_append, front_append_back]

lemma size_front_le (s : String) : (front s).utf8ByteSize ≤ 4 * room := by
  have hbytes := utf8Len_le (front s).toList
  have hlength := length_front s
  rw [String.utf8Len_toList, String.length_toList] at hbytes
  omega

lemma detail_of_short (h : s.utf8ByteSize ≤ detailBound) : detail s = s :=
  if_pos h

lemma detail_of_long (h : detailBound < s.utf8ByteSize) : detail s = front s ++ ellipsis :=
  if_neg (Nat.not_le.mpr h)

lemma size_detail_of_long (h : detailBound < s.utf8ByteSize) :
    (detail s).utf8ByteSize = (front s).utf8ByteSize + 3 := by
  rw [detail_of_long h, String.utf8ByteSize_append]
  rfl

/-! ## What is kept -/

/-- A kept text has no more characters than the bound. -/
lemma length_detail_le (s : String) : (detail s).length ≤ detailBound := by
  by_cases h : s.utf8ByteSize ≤ detailBound
  · have hlength := length_le_utf8Len s.toList
    rw [String.utf8Len_toList, String.length_toList] at hlength
    rw [detail_of_short h]
    omega
  · have hfront := length_front s
    have hdots : ellipsis.length = 3 := rfl
    have hroom : room = 509 := rfl
    have hbound : detailBound = 512 := rfl
    rw [detail_of_long (Nat.lt_of_not_le h), String.length_append]
    omega

/-- It may have nearly four times as many bytes. -/
lemma size_detail_le (s : String) : (detail s).utf8ByteSize ≤ 4 * room + 3 := by
  have hbound : detailBound = 512 := rfl
  have hroom : room = 509 := rfl
  by_cases h : s.utf8ByteSize ≤ detailBound
  · rw [detail_of_short h]
    omega
  · have hfront := size_front_le s
    rw [size_detail_of_long (Nat.lt_of_not_le h)]
    omega

/-- A kept text is within the bound just when it was before, or is plain up to the cut. -/
lemma size_detail_le_detailBound_iff : (detail s).utf8ByteSize ≤ detailBound ↔
    s.utf8ByteSize ≤ detailBound ∨ IsPlainlyCut s := by
  by_cases h : s.utf8ByteSize ≤ detailBound
  · rw [detail_of_short h]
    exact iff_of_true h (.inl h)
  · have hlong := Nat.lt_of_not_le h
    have hsize := size_eq s
    have hfront := length_front s
    have hplain : String.utf8Len (front s).toList ≤ (front s).toList.length ↔
        ∀ c ∈ (front s).toList, c.utf8Size = 1 := utf8Len_le_length_iff
    rw [String.utf8Len_toList, String.length_toList] at hplain
    have hroom : room + 3 = detailBound := rfl
    rw [size_detail_of_long hlong, or_iff_right h]
    constructor
    · intro hle
      -- the kept part alone is within the bound, so something was cut off
      have hback : back s ≠ "" := by
        intro hback
        rw [hback, String.utf8ByteSize_empty] at hsize
        omega
      have hlength := back_ne_iff.mp hback
      exact ⟨hback, hplain.mp (by omega)⟩
    · intro hcut
      have hlength := back_ne_iff.mp hcut.back_ne
      have hbytes := hplain.mpr hcut.plain
      omega

/-- A kept text is no longer than before just when the ellipsis takes no more bytes than what it
stands for. -/
lemma size_detail_le_size_iff : (detail s).utf8ByteSize ≤ s.utf8ByteSize ↔
    s.utf8ByteSize ≤ detailBound ∨ 3 ≤ (back s).utf8ByteSize := by
  by_cases h : s.utf8ByteSize ≤ detailBound
  · rw [detail_of_short h]
    exact iff_of_true (Nat.le_refl _) (.inl h)
  · have hsize := size_eq s
    rw [size_detail_of_long (Nat.lt_of_not_le h), or_iff_right h]
    omega

/-- Of a long text a proper part is kept just when the text does not end before the cut. -/
lemma exists_cut_iff (h : detailBound < s.utf8ByteSize) :
    (∃ p q, p ++ q = s ∧ q ≠ "" ∧ detail s = p ++ ellipsis) ↔ back s ≠ "" := by
  rw [detail_of_long h]
  constructor
  · rintro ⟨p, q, happend, hq, hkept⟩
    have hfront : front s = p := (String.append_left_inj ellipsis).mp hkept
    have hback : p ++ back s = p ++ q := by rw [← hfront, front_append_back, hfront, happend]
    rwa [(String.append_right_inj p).mp hback]
  · intro hback
    exact ⟨front s, back s, front_append_back s, hback, rfl⟩

/-- The start of a kept text is that of the text itself just when the text fills the room. -/
lemma front_detail_eq_iff (h : detailBound < s.utf8ByteSize) :
    front (detail s) = front s ↔ room ≤ s.length := by
  have hdots : ellipsis.length = 3 := rfl
  have hfront := length_front s
  rw [detail_of_long h]
  constructor
  · intro hsame
    have hlength := length_front (front s ++ ellipsis)
    rw [hsame, String.length_append] at hlength
    have hroom : 0 < room := by decide
    omega
  · intro hroom
    have hfull : (front s).toList.length = room := by
      rw [String.length_toList]
      omega
    show String.ofList ((front s ++ ellipsis).toList.take room) = front s
    rw [String.toList_append, List.take_left' hfull, String.ofList_toList]

/-- A kept text is kept as it is just when the text was short or fills the room. -/
lemma detail_detail_iff : detail (detail s) = detail s ↔
    s.utf8ByteSize ≤ detailBound ∨ room ≤ s.length := by
  by_cases h : s.utf8ByteSize ≤ detailBound
  · rw [detail_of_short h, detail_of_short h]
    exact iff_of_true rfl (.inl h)
  · have hlong := Nat.lt_of_not_le h
    rw [or_iff_right h]
    by_cases hkept : (detail s).utf8ByteSize ≤ detailBound
    · have hcut := (size_detail_le_detailBound_iff.mp hkept).resolve_left h
      have hlength := back_ne_iff.mp hcut.back_ne
      exact iff_of_true (detail_of_short hkept) (by omega)
    · rw [detail_of_long (Nat.lt_of_not_le hkept), ← front_detail_eq_iff hlong]
      nth_rewrite 2 [detail_of_long hlong]
      exact String.append_left_inj ellipsis

/-! ## What is promised -/

/-- What is promised of a fault with a bounded text: the text is within the bound, not longer than
before, the whole text if that is short and else a proper part of it with an ellipsis; and it stays
as it is when it is bounded again. -/
structure IsAbridged (f kept : Fault) : Prop where
  size_le : kept.text.utf8ByteSize ≤ detailBound
  not_longer : kept.text.utf8ByteSize ≤ f.text.utf8ByteSize
  whole : f.text.utf8ByteSize ≤ detailBound → kept.text = f.text
  cut : detailBound < f.text.utf8ByteSize →
    ∃ p q, p ++ q = f.text ∧ q ≠ "" ∧ kept.text = p ++ ellipsis
  stays : kept.bounded = kept

lemma text_bounded (f : Fault) : f.bounded.text = detail f.text := by
  cases f <;> rfl

lemma bounded_bounded_iff (f : Fault) :
    f.bounded.bounded = f.bounded ↔ f.text.utf8ByteSize ≤ detailBound ∨ room ≤ f.text.length := by
  rw [← detail_detail_iff]
  cases f <;> simp [bounded, text]

lemma isAbridged_iff (f : Fault) : IsAbridged f f.bounded ↔
    f.text.utf8ByteSize ≤ detailBound ∨ IsPlainlyCut f.text := by
  rw [← size_detail_le_detailBound_iff]
  constructor
  · intro h
    exact f.text_bounded ▸ h.size_le
  · intro h
    have hcases := size_detail_le_detailBound_iff.mp h
    have hback : detailBound < f.text.utf8ByteSize → back f.text ≠ "" := fun hlong =>
      (hcases.resolve_left (Nat.not_le.mpr hlong)).back_ne
    have hfilled : f.text.utf8ByteSize ≤ detailBound ∨ room ≤ f.text.length :=
      hcases.imp_right fun hcut => Nat.le_of_lt (back_ne_iff.mp hcut.back_ne)
    constructor
    case size_le =>
      rwa [text_bounded]
    case not_longer =>
      rw [text_bounded]
      by_cases hshort : f.text.utf8ByteSize ≤ detailBound
      · rw [detail_of_short hshort]
      · omega
    case whole =>
      intro hshort
      rw [text_bounded, detail_of_short hshort]
    case cut =>
      intro hlong
      rw [text_bounded]
      exact (exists_cut_iff hlong).mpr (hback hlong)
    case stays =>
      exact f.bounded_bounded_iff.mpr hfilled

/-- **Texts that a fault keeps.** A short text is kept as it is, and of a long one the part in front
of the cut with an ellipsis behind it. So a kept text has no more characters than the bound, but
perhaps nearly four times as many bytes; it may be longer than before, and longer again the next
time. All that is promised holds just for texts that are short or plain up to the cut. -/
theorem isAbridged_bounded_iff (f : Fault) :
    (f.text.utf8ByteSize ≤ detailBound → f.bounded = f) ∧
    (detailBound < f.text.utf8ByteSize → f.bounded.text = front f.text ++ ellipsis) ∧
    f.bounded.text.length ≤ detailBound ∧
    f.bounded.text.utf8ByteSize ≤ 4 * room + 3 ∧
    (f.bounded.text.utf8ByteSize ≤ f.text.utf8ByteSize ↔
      f.text.utf8ByteSize ≤ detailBound ∨ 3 ≤ (back f.text).utf8ByteSize) ∧
    (f.bounded.bounded = f.bounded ↔
      f.text.utf8ByteSize ≤ detailBound ∨ room ≤ f.text.length) ∧
    (IsAbridged f f.bounded ↔ f.text.utf8ByteSize ≤ detailBound ∨ IsPlainlyCut f.text) := by
  refine ⟨fun hshort => ?_, ?_, ?_, ?_, ?_, f.bounded_bounded_iff, f.isAbridged_iff⟩
  · cases f <;> exact congrArg _ (detail_of_short hshort)
  · rw [text_bounded]
    exact detail_of_long
  · rw [text_bounded]
    exact length_detail_le f.text
  · rw [text_bounded]
    exact size_detail_le f.text
  · rw [text_bounded]
    exact size_detail_le_size_iff

/-! A long text of plain characters, and a text of few characters but many bytes. -/

/-- The fault of a text of one character so many times. -/
def repeated (c : Char) (n : Nat) : Fault :=
  .decode (.ofList (List.replicate n c))

lemma size_repeated (c : Char) (n : Nat) : (repeated c n).text.utf8ByteSize = n * c.utf8Size := by
  show (String.ofList (List.replicate n c)).utf8ByteSize = n * c.utf8Size
  rw [String.utf8ByteSize_ofList]
  induction n with
  | zero => rw [List.replicate_zero, String.utf8Len_nil, Nat.zero_mul]
  | succ n ih => rw [List.replicate_succ, String.utf8Len_cons, ih, Nat.succ_mul]

lemma length_repeated (c : Char) (n : Nat) : (repeated c n).text.length = n := by
  show (String.ofList (List.replicate n c)).length = n
  rw [String.length_ofList, List.length_replicate]

theorem isAbridged_bounded_plain :
    detailBound < (repeated 'x' 1024).text.utf8ByteSize ∧
      IsAbridged (repeated 'x' 1024) (repeated 'x' 1024).bounded := by
  have hsize := size_repeated 'x' 1024
  have hplain : IsPlainlyCut (repeated 'x' 1024).text := by
    constructor
    · rw [back_ne_iff, length_repeated]
      decide
    · intro c hc
      have hrepeated : c ∈ List.replicate 1024 'x' := by
        have htext : (repeated 'x' 1024).text.toList = List.replicate 1024 'x' :=
          String.toList_ofList
        rw [front, String.toList_ofList, htext] at hc
        exact List.mem_of_mem_take hc
      rw [List.eq_of_mem_replicate hrepeated]
      rfl
  exact ⟨by rw [hsize]; decide, (isAbridged_bounded_iff _).2.2.2.2.2.2.mpr (.inr hplain)⟩

/-- 129 characters of four bytes each are kept all, with an ellipsis behind them, and once more with
another one. -/
theorem not_always_abridged :
    (repeated '😀' 129).text.utf8ByteSize = 516 ∧
    (repeated '😀' 129).bounded.text = (repeated '😀' 129).text ++ ellipsis ∧
    (repeated '😀' 129).bounded.text.utf8ByteSize = 519 ∧
    (repeated '😀' 129).bounded.bounded ≠ (repeated '😀' 129).bounded ∧
    ¬∀ f : Fault, IsAbridged f f.bounded := by
  have hsize : (repeated '😀' 129).text.utf8ByteSize = 516 := size_repeated '😀' 129
  have hlong : detailBound < (repeated '😀' 129).text.utf8ByteSize := by
    rw [hsize]
    decide
  have hback : back (repeated '😀' 129).text = "" := by
    by_contra hback
    have hlength := back_ne_iff.mp hback
    rw [length_repeated] at hlength
    exact absurd hlength (by decide)
  have hfront : front (repeated '😀' 129).text = (repeated '😀' 129).text := by
    have happend := front_append_back (repeated '😀' 129).text
    rwa [hback, String.append_empty] at happend
  have hkept : (repeated '😀' 129).bounded.text = (repeated '😀' 129).text ++ ellipsis := by
    rw [text_bounded, detail_of_long hlong, hfront]
  have hkeptSize : (repeated '😀' 129).bounded.text.utf8ByteSize = 519 := by
    rw [hkept, String.utf8ByteSize_append, hsize]
    rfl
  refine ⟨hsize, hkept, hkeptSize, ?_, fun hall => ?_⟩
  · intro hagain
    have hcases := (bounded_bounded_iff _).mp hagain
    rw [hsize, length_repeated] at hcases
    exact absurd hcases (by decide)
  · have hle := (hall (repeated '😀' 129)).size_le
    rw [hkeptSize] at hle
    exact absurd hle (by decide)

end Fault

end BulkWrite
