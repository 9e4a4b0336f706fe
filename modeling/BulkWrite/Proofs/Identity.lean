import Mathlib.Algebra.GroupWithZero.Nat
import Mathlib.Data.List.Infix
import Mathlib.Data.String.Basic
import BulkWrite.Proofs.Decode.Items

/-!
# Which references share an identifier

The identifier of a reference that is built is written from its ends and its property,

`source class/source id/property->target class/target id`,

and no separator in these five texts is escaped. So references between the same ends have the same
identifier, but one is told by it from all others only if no separator in its texts could stand for
one that is written between them (`ReferenceItem.IsPlain`): no slash in any of them, and no arrow in
the two next to the arrow. A reference that is decoded has the identifier that was sent with it,
whatever its ends are. Main statement: `ReferenceItem.identity`.
-/

namespace BulkWrite

/-! ## Texts around a separator -/

section Separator

variable {α : Type} [DecidableEq α] {x y : α} {parts parts' : List (List α)}

/-- Between parts stand as many separators as parts less one. -/
lemma count_intercalate (hparts : parts ≠ []) :
    ([x].intercalate parts).count x + 1 = (parts.map (List.count x)).sum + parts.length := by
  induction parts with
  | nil => exact absurd rfl hparts
  | cons part rest ih =>
    cases rest with
    | nil => simp
    | cons next rest =>
      have hrest := ih (List.cons_ne_nil next rest)
      rw [List.intercalate_cons_cons, List.count_append, List.count_append,
        List.count_singleton_self, List.map_cons, List.sum_cons, List.length_cons]
      omega

/-- Parts hold no separator exactly if only those between them are written. -/
lemma notMem_iff_count_intercalate (hparts : parts ≠ []) :
    (∀ part ∈ parts, x ∉ part) ↔ ([x].intercalate parts).count x + 1 = parts.length := by
  rw [count_intercalate hparts, Nat.add_eq_right, List.sum_eq_zero_iff_forall_eq_nat]
  simp [List.count_eq_zero]

/-- Parts without the separator are told from as many others by what is written of them. -/
lemma eq_of_intercalate_eq (hclean : ∀ part ∈ parts, x ∉ part) (hparts : parts ≠ [])
    (h : [x].intercalate parts = [x].intercalate parts') (hlength : parts.length = parts'.length) :
    parts = parts' := by
  have hparts' : parts' ≠ [] := by
    rintro rfl
    exact hparts (List.length_eq_zero_iff.mp hlength)
  -- the others are without it too, because as many separators are written of them
  have hclean' : ∀ part ∈ parts', x ∉ part := by
    rw [notMem_iff_count_intercalate hparts']
    rw [notMem_iff_count_intercalate hparts] at hclean
    rw [← h, hclean, hlength]
  calc
    parts = ([x].intercalate parts).splitOn x := (List.splitOn_intercalate x hclean hparts).symm
    _ = ([x].intercalate parts').splitOn x := by rw [h]
    _ = parts' := List.splitOn_intercalate x hclean' hparts'

omit [DecidableEq α] in
/-- Two different elements do not overlap themselves. -/
lemma eq_nil_or_exists_of_append_pair {between right right' : List α} (hne : x ≠ y)
    (h : x :: y :: right = between ++ x :: y :: right') :
    between = [] ∨ ∃ more, between = x :: y :: more := by
  match between with
  | [] => exact .inl rfl
  | [z] =>
    obtain ⟨-, hrest⟩ := List.cons.inj h
    exact absurd (List.cons.inj hrest).1.symm hne
  | z :: z' :: more =>
    obtain ⟨rfl, hrest⟩ := List.cons.inj h
    obtain ⟨rfl, -⟩ := List.cons.inj hrest
    exact .inr ⟨more, rfl⟩

omit [DecidableEq α] in
/-- Two different elements that are written between lists without them are found again. -/
lemma eq_of_append_pair {left right left' right' : List α} (hne : x ≠ y)
    (hleft : ¬[x, y] <:+: left) (hright : ¬[x, y] <:+: right)
    (h : left ++ x :: y :: right = left' ++ x :: y :: right') : left = left' ∧ right = right' := by
  rcases List.append_eq_append_iff.mp h with ⟨between, rfl, hrest⟩ | ⟨between, rfl, hrest⟩
  · rcases eq_nil_or_exists_of_append_pair hne hrest with rfl | ⟨more, rfl⟩
    · simpa using hrest
    · -- the other pair would be one in the right list
      have hmore : right = more ++ x :: y :: right' := by simpa using hrest
      exact absurd ⟨more, right', by rw [hmore]; simp⟩ hright
  · rcases eq_nil_or_exists_of_append_pair hne hrest with rfl | ⟨more, rfl⟩
    · simpa using hrest.symm
    · exact absurd ⟨left', more, by simp⟩ hleft

end Separator

/-- Where a stretch of a text is two parts around a separator in one way only, neither part holds
the separator. -/
lemma not_infix_of_unique {separator left right : String} (before after : String)
    (hseparator : separator ≠ "") (hunique : ∀ left' right' : String,
      before ++ left' ++ separator ++ right' ++ after =
        before ++ left ++ separator ++ right ++ after → left' = left) :
    ¬separator.toList <:+: left.toList ∧ ¬separator.toList <:+: right.toList := by
  have hpos : 0 < separator.length := by
    rw [Nat.pos_iff_ne_zero]
    simpa using hseparator
  constructor
  · rintro ⟨front, back, hleft⟩
    have hfound : left = String.ofList front ++ separator ++ String.ofList back := by
      apply String.ext
      simp [← hleft]
    have hshort := hunique (.ofList front) (.ofList back ++ separator ++ right) (by
      rw [hfound]
      simp only [String.append_assoc])
    have hlength := congrArg String.length (hshort.trans hfound)
    simp only [String.length_append] at hlength
    omega
  · rintro ⟨front, back, hright⟩
    have hfound : right = String.ofList front ++ separator ++ String.ofList back := by
      apply String.ext
      simp [← hright]
    have hlong := hunique (left ++ separator ++ .ofList front) (.ofList back) (by
      rw [hfound]
      simp only [String.append_assoc])
    have hlength := congrArg String.length hlong
    simp only [String.length_append] at hlength
    omega

attribute [ext] Beacon

namespace ReferenceItem

variable {r s : ReferenceItem}

/-! ## References that callers have -/

/-- References that are built. -/
inductive Built : ReferenceItem → Prop
  | between (source : Beacon) (property : String) (target : Beacon) :
    Built (between source property target)
  | tenant {r : ReferenceItem} (built : Built r) (name : String) :
    Built { r with tenant := some name }

/-- References that are built or decoded. -/
inductive Obtained : ReferenceItem → Prop
  | between (source : Beacon) (property : String) (target : Beacon) :
    Obtained (between source property target)
  | decoded {text : String} {r : ReferenceItem} (decoded : decoder.decodeText text = .ok r) :
    Obtained r
  | tenant {r : ReferenceItem} (obtained : Obtained r) (name : String) :
    Obtained { r with tenant := some name }

/-- Two references lead from the same property of the same object to the same object. -/
def SameEnds (r s : ReferenceItem) : Prop :=
  r.source = s.source ∧ r.property = s.property ∧ r.target = s.target
deriving Decidable

/-- The texts that the identifier is written of hold no separator that could stand for the one next
to them. -/
structure IsPlain (r : ReferenceItem) : Prop where
  slashes : ∀ part ∈ [r.source.className, r.source.id, r.property, r.target.className, r.target.id],
    '/' ∉ part.toList
  arrows : ∀ part ∈ [r.property, r.target.className], ¬"->".toList <:+: part.toList

instance : Decidable r.IsPlain :=
  decidable_of_iff _ ⟨fun h => IsPlain.mk h.1 h.2, fun h => And.intro h.slashes h.arrows⟩

/-- What is built has the identifier of its ends, and everything that has it can be built. -/
lemma built_iff : Built r ↔ r.id = identifier r.source r.property r.target := by
  constructor
  · intro hbuilt
    induction hbuilt with
    | between => rfl
    | tenant built name ih => exact ih
  · intro hid
    obtain ⟨id, source, property, target, tenant⟩ := r
    obtain rfl : id = identifier source property target := hid
    cases tenant with
    | none => exact .between source property target
    | some name => exact .tenant (.between source property target) name

/-! ## Reading an identifier -/

lemma identifier_eq (source : Beacon) (property : String) (target : Beacon) :
    identifier source property target = source.className ++ "/" ++ source.id ++ "/" ++ property ++
      "->" ++ target.className ++ "/" ++ target.id := rfl

lemma toList_identifier (source : Beacon) (property : String) (target : Beacon) :
    (identifier source property target).toList = ['/'].intercalate
      [source.className.toList, source.id.toList,
        property.toList ++ '-' :: '>' :: target.className.toList, target.id.toList] := by
  simp [identifier_eq, List.intercalate_cons_cons]

/-- Where no separator stands in the texts, the identifier is that of these ends only. -/
lemma IsPlain.sameEnds_of_identifier (h : r.IsPlain)
    (hid : identifier r.source r.property r.target = identifier s.source s.property s.target) :
    r.SameEnds s := by
  have htexts := congrArg String.toList hid
  rw [toList_identifier, toList_identifier] at htexts
  have hclean : ∀ part ∈ [r.source.className.toList, r.source.id.toList,
      r.property.toList ++ '-' :: '>' :: r.target.className.toList, r.target.id.toList],
      '/' ∉ part := by
    simpa [and_assoc] using h.slashes
  have hparts := eq_of_intercalate_eq hclean (List.cons_ne_nil _ _) htexts rfl
  simp only [List.cons.injEq, String.toList_inj, and_true] at hparts
  obtain ⟨hclass, hsource, hmiddle, htarget⟩ := hparts
  -- the third part holds the property and the class of the target
  obtain ⟨hproperty, hclass'⟩ := eq_of_append_pair (by decide) (h.arrows r.property (by simp))
    (h.arrows r.target.className (by simp)) hmiddle
  rw [String.toList_inj] at hproperty hclass'
  exact ⟨Beacon.ext hclass hsource, hproperty, Beacon.ext hclass' htarget⟩

/-- Where the identifier is that of these ends only, no separator stands in the texts: each of the
four that are written is looked for in the two texts next to it. -/
lemma isPlain_of_unique (hunique : ∀ source property target,
    identifier source property target = identifier r.source r.property r.target →
      r.source = source ∧ r.property = property ∧ r.target = target) : r.IsPlain := by
  -- a separator inside of a part could be taken for the next one, which gives other ends
  have hfirst : ¬"/".toList <:+: r.source.className.toList ∧
      ¬"/".toList <:+: r.source.id.toList := by
    apply not_infix_of_unique "" ("/" ++ r.property ++ "->" ++ r.target.className ++ "/" ++
      r.target.id) (by decide)
    intro left right heq
    obtain ⟨hsource, -⟩ := hunique ⟨left, right⟩ r.property r.target
      (by simpa [identifier_eq, String.append_assoc] using heq)
    rw [hsource]
  have hsecond : ¬"/".toList <:+: r.source.id.toList ∧ ¬"/".toList <:+: r.property.toList := by
    apply not_infix_of_unique (r.source.className ++ "/") ("->" ++ r.target.className ++ "/" ++
      r.target.id) (by decide)
    intro left right heq
    obtain ⟨hsource, -⟩ := hunique ⟨r.source.className, left⟩ right r.target
      (by simpa [identifier_eq, String.append_assoc] using heq)
    rw [hsource]
  have harrow : ¬"->".toList <:+: r.property.toList ∧
      ¬"->".toList <:+: r.target.className.toList := by
    apply not_infix_of_unique (r.source.className ++ "/" ++ r.source.id ++ "/")
      ("/" ++ r.target.id) (by decide)
    intro left right heq
    obtain ⟨-, hproperty, -⟩ := hunique r.source left ⟨right, r.target.id⟩
      (by simpa [identifier_eq, String.append_assoc] using heq)
    exact hproperty.symm
  have hlast : ¬"/".toList <:+: r.target.className.toList ∧
      ¬"/".toList <:+: r.target.id.toList := by
    apply not_infix_of_unique (r.source.className ++ "/" ++ r.source.id ++ "/" ++ r.property ++
      "->") "" (by decide)
    intro left right heq
    obtain ⟨-, -, htarget⟩ := hunique r.source r.property ⟨left, right⟩
      (by simpa [identifier_eq, String.append_assoc] using heq)
    rw [htarget]
  have hslash (text : String) (hnone : ¬"/".toList <:+: text.toList) : '/' ∉ text.toList := by
    rw [← List.singleton_infix_iff]
    exact hnone
  constructor
  case slashes =>
    simp only [List.mem_cons, List.not_mem_nil, or_false, forall_eq_or_imp, forall_eq]
    exact ⟨hslash _ hfirst.1, hslash _ hfirst.2, hslash _ hsecond.2, hslash _ hlast.1,
      hslash _ hlast.2⟩
  case arrows =>
    simpa only [List.mem_cons, List.not_mem_nil, or_false, forall_eq_or_imp, forall_eq] using harrow

/-- References that are built between the same ends have the same identifier. -/
lemma Built.id_eq (hr : Built r) (hs : Built s) (hends : r.SameEnds s) : r.id = s.id := by
  obtain ⟨hsource, hproperty, htarget⟩ := hends
  rw [built_iff.mp hr, built_iff.mp hs, hsource, hproperty, htarget]

/-! ## Main statement -/

/-- **What the identifier of a reference tells.** Exactly what is built, and what is decoded with
such an identifier, has the identifier of its ends. Of these, references between the same ends have
the same identifier, and one shares it with these only exactly if its texts are plain. But every
identifier can be decoded with any ends: with others than those of a reference that has it, and
these ends with others. -/
theorem identity (r : ReferenceItem) :
    (Built r ↔ r.id = identifier r.source r.property r.target) ∧
    (∀ s, Built r → Built s → r.SameEnds s → r.id = s.id) ∧
    (Built r → (r.IsPlain ↔ ∀ s, Built s → (r.id = s.id ↔ r.SameEnds s))) ∧
    (∃ text, decoder.decodeText text = .ok r) ∧
    (∃ s, Obtained s ∧ r.id = s.id ∧ ¬r.SameEnds s) ∧
    ∃ s, Obtained s ∧ r.id ≠ s.id ∧ r.SameEnds s := by
  have hlonger (text : String) : text ≠ text ++ "/" := by
    intro heq
    have hlength := congrArg String.length heq
    simp at hlength
  refine ⟨built_iff, fun s => Built.id_eq, fun hr => ⟨?_, ?_⟩, ⟨_, readsBack r⟩, ?_, ?_⟩
  · intro hplain s hs
    refine ⟨fun hid => hplain.sameEnds_of_identifier ?_, hr.id_eq hs⟩
    rw [← built_iff.mp hr, ← built_iff.mp hs]
    exact hid
  · intro hunique
    apply isPlain_of_unique
    intro source property target heq
    exact (hunique _ (.between source property target)).mp ((built_iff.mp hr).trans heq.symm)
  · let other := { r with property := r.property ++ "/" }
    exact ⟨other, .decoded (readsBack other), rfl, fun hends => hlonger _ hends.2.1⟩
  · let other := { r with id := r.id ++ "/" }
    exact ⟨other, .decoded (readsBack other), hlonger _, rfl, rfl, rfl⟩

/-- The reference from an author to an article. -/
def authored : ReferenceItem :=
  between ⟨"Author", "a-1"⟩ "wrote" ⟨"Article", "b-2"⟩

/-- The same, with an identifier that does not name its ends. -/
def renamed : ReferenceItem :=
  { authored with id := "x" }

theorem identity_authored : Built authored ∧ authored.IsPlain ∧
    ∀ s, Built s → (authored.id = s.id ↔ authored.SameEnds s) := by
  have hbuilt : Built authored := .between _ _ _
  have hplain : authored.IsPlain := by decide
  exact ⟨hbuilt, hplain, ((identity authored).2.2.1 hbuilt).mp hplain⟩

/-- A decoded reference does not have the identifier of its ends, and built references between
different ends may have the same one. -/
theorem not_always_identified :
    (¬∀ r s, Obtained r → Obtained s → (r.id = s.id ↔ r.SameEnds s)) ∧
    ¬∀ r s, Built r → Built s → (r.id = s.id ↔ r.SameEnds s) := by
  constructor
  · intro h
    have hid := (h renamed authored (.decoded (readsBack _)) (.between _ _ _)).mpr ⟨rfl, rfl, rfl⟩
    revert hid
    decide
  · intro h
    have hends := (h (between ⟨"A", "B/c"⟩ "p" ⟨"D", "e"⟩) (between ⟨"A/B", "c"⟩ "p" ⟨"D", "e"⟩)
      (.between _ _ _) (.between _ _ _)).mp rfl
    revert hends
    decide

end ReferenceItem

end BulkWrite
