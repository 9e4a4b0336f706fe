import BulkWrite.Proofs.Json.Reading

/-!
# Values that last

A value that is written and read again is the same value just when each of its numbers is read as it
was written and the value is not nested too deeply for its place (`toJson?_readAt_iff`). A value
that was read is not nested too deeply where it stood, and its whole numbers last
(`Document.IsLegal`). What is left are its binary numbers: their digits are those of a number next
to them, and a reader rounds twice on the way back.
-/

namespace BulkWrite

/-! ## What a reader brings -/

namespace Document

mutual

/-- Whether a document may have been read where `d` arrays and objects enclose it: its numbers are
those of literals, and it is not nested too deeply. -/
def IsLegal : Document → Nat → Prop
  | .number n, _ => ∃ l : Json.Literal, l.value? = some n
  | .sequence items, d => d < nestingBound ∧ AreLegal items (d + 1)
  | .mapping members, d => d < nestingBound ∧ MembersAreLegal members (d + 1)
  | _, _ => True

/-- Whether all of these documents may have been. -/
def AreLegal : List Document → Nat → Prop
  | [], _ => True
  | doc :: docs, d => doc.IsLegal d ∧ AreLegal docs d

/-- Whether all of these members may have been. -/
def MembersAreLegal : List (Option String × Document) → Nat → Prop
  | [], _ => True
  | (_, doc) :: ms, d => doc.IsLegal d ∧ MembersAreLegal ms d

end

lemma areLegal_iff {docs : List Document} {d : Nat} :
    AreLegal docs d ↔ ∀ doc ∈ docs, doc.IsLegal d := by
  induction docs with
  | nil => simp [AreLegal]
  | cons doc docs ih => rw [AreLegal, ih, List.forall_mem_cons]

lemma membersAreLegal_iff {ms : List (Option String × Document)} {d : Nat} :
    MembersAreLegal ms d ↔ ∀ m ∈ ms, m.2.IsLegal d := by
  induction ms with
  | nil => simp [MembersAreLegal]
  | cons m ms ih => rw [MembersAreLegal, ih, List.forall_mem_cons]

end Document

namespace Json

lemma isLegal_nested {d : Nat} {doc : Document} (h : d < Document.nestingBound → doc.IsLegal d) :
    (nested d doc).IsLegal d := by
  unfold nested
  split
  · rename_i hd
    exact h hd
  · trivial

lemma isLegal_readNumber {cs rest : List Char} {doc : Document} (d : Nat)
    (h : readNumber cs = some (doc, rest)) : doc.IsLegal d := by
  obtain ⟨⟨l, rest'⟩, -, hdoc⟩ := Option.map_eq_some_iff.mp h
  obtain ⟨rfl, -⟩ := Prod.mk.inj hdoc
  cases hvalue : l.value? with
  | none => trivial
  | some n => exact ⟨l, hvalue⟩

/-- Every value that is read with so much fuel is legal at its place. -/
def ValueLegal (fuel : Nat) : Prop :=
  ∀ d cs doc rest, readValue fuel d cs = some (doc, rest) → doc.IsLegal d

/-- So are the items of an array. -/
def ItemsLegal (fuel : Nat) : Prop :=
  ∀ d cs docs rest, readItems fuel d cs = some (docs, rest) → Document.AreLegal docs d

/-- And so are the members of an object. -/
def MembersLegal (fuel : Nat) : Prop :=
  ∀ d cs ms rest, readMembers fuel d cs = some (ms, rest) → Document.MembersAreLegal ms d

variable {fuel : Nat}

lemma valueLegal_succ (hitems : ItemsLegal fuel) (hmembers : MembersLegal fuel) :
    ValueLegal (fuel + 1) := by
  intro d cs doc rest h
  rw [readValue] at h
  split at h
  · obtain ⟨rfl, -⟩ := Prod.mk.inj (Option.some.inj h)
    trivial
  · obtain ⟨rfl, -⟩ := Prod.mk.inj (Option.some.inj h)
    trivial
  · obtain ⟨rfl, -⟩ := Prod.mk.inj (Option.some.inj h)
    trivial
  · obtain ⟨⟨s, rest'⟩, -, hdoc⟩ := Option.map_eq_some_iff.mp h
    obtain ⟨rfl, -⟩ := Prod.mk.inj hdoc
    cases s <;> trivial
  · split at h
    · obtain ⟨rfl, -⟩ := Prod.mk.inj (Option.some.inj h)
      exact isLegal_nested fun hd => ⟨hd, trivial⟩
    · split at h
      · rename_i items rest' hread
        obtain ⟨rfl, -⟩ := Prod.mk.inj (Option.some.inj h)
        exact isLegal_nested fun hd => ⟨hd, hitems _ _ _ _ hread⟩
      · cases h
  · split at h
    · obtain ⟨rfl, -⟩ := Prod.mk.inj (Option.some.inj h)
      exact isLegal_nested fun hd => ⟨hd, trivial⟩
    · split at h
      · rename_i members rest' hread
        obtain ⟨rfl, -⟩ := Prod.mk.inj (Option.some.inj h)
        exact isLegal_nested fun hd => ⟨hd, hmembers _ _ _ _ hread⟩
      · cases h
  · exact isLegal_readNumber d h

lemma itemsLegal_succ (hvalue : ValueLegal fuel) (hitems : ItemsLegal fuel) :
    ItemsLegal (fuel + 1) := by
  intro d cs docs rest h
  rw [readItems] at h
  split at h
  · cases h
  · rename_i doc rest' hfirst
    have hdoc := hvalue _ _ _ _ hfirst
    split at h
    · obtain ⟨rfl, -⟩ := Prod.mk.inj (Option.some.inj h)
      exact ⟨hdoc, trivial⟩
    · split at h
      · rename_i docs' rest'' hrest
        obtain ⟨rfl, -⟩ := Prod.mk.inj (Option.some.inj h)
        exact ⟨hdoc, hitems _ _ _ _ hrest⟩
      · cases h
    · cases h

lemma membersLegal_succ (hvalue : ValueLegal fuel) (hmembers : MembersLegal fuel) :
    MembersLegal (fuel + 1) := by
  intro d cs ms rest h
  rw [readMembers] at h
  split at h
  case h_2 => cases h
  split at h
  case h_1 => cases h
  split at h
  case h_2 => cases h
  split at h
  case h_1 => cases h
  rename_i doc rest' hfirst
  have hdoc := hvalue _ _ _ _ hfirst
  split at h
  · obtain ⟨rfl, -⟩ := Prod.mk.inj (Option.some.inj h)
    exact ⟨hdoc, trivial⟩
  · split at h
    · rename_i ms' rest'' hrest
      obtain ⟨rfl, -⟩ := Prod.mk.inj (Option.some.inj h)
      exact ⟨hdoc, hmembers _ _ _ _ hrest⟩
    · cases h
  · cases h

/-- Whatever is read is legal at its place. -/
lemma legal_of_read (fuel : Nat) : ValueLegal fuel ∧ ItemsLegal fuel ∧ MembersLegal fuel := by
  induction fuel with
  | zero => exact ⟨nofun, nofun, nofun⟩
  | succ fuel ih =>
    obtain ⟨hvalue, hitems, hmembers⟩ := ih
    exact ⟨valueLegal_succ hitems hmembers, itemsLegal_succ hvalue hitems,
      membersLegal_succ hvalue hmembers⟩

end Json

namespace Document

/-- A document that a text holds is legal. -/
theorem isLegal_of_read? {s : String} {doc : Document} (h : read? s = some doc) :
    doc.IsLegal 0 := by
  unfold read? at h
  dsimp only at h
  split at h
  · rename_i doc' rest hread
    split at h
    · obtain rfl := Option.some.inj h
      exact (Json.legal_of_read _).1 _ _ _ _ hread
    · cases h
  · cases h

/-- Its value is not nested more deeply than the place allows, and its numbers are those of
literals. -/
lemma legal_toJson? {doc : Document} {v : Json} {d : Nat} (hlegal : doc.IsLegal d)
    (h : doc.toJson? = some v) :
    (v.depth = 0 ∨ d + v.depth ≤ nestingBound) ∧
      ∀ n ∈ v.numbers, ∃ l : Json.Literal, l.value? = some n := by
  induction doc using inductionOn generalizing v d with
  | null | bool | text =>
    obtain rfl := Option.some.inj h
    exact ⟨.inl rfl, nofun⟩
  | number n =>
    obtain rfl := Option.some.inj h
    refine ⟨.inl rfl, ?_⟩
    rintro n' hmem
    rw [List.mem_singleton.mp hmem]
    exact hlegal
  | sequence items ih =>
    obtain ⟨vs, hvs, rfl⟩ := Option.map_eq_some_iff.mp h
    obtain ⟨hd, hitems⟩ := hlegal
    rw [areLegal_iff] at hitems
    -- the items are one level deeper, and legal there
    have hparts : ∀ v ∈ vs, v.depth ≤ nestingBound - (d + 1) ∧
        ∀ n ∈ v.numbers, ∃ l : Json.Literal, l.value? = some n := by
      intro v hmem
      obtain ⟨doc, hdoc, hv⟩ := Json.exists_of_mem_itemsToJson? hvs hmem
      obtain ⟨hdepth, hnumbers⟩ := ih doc hdoc (hitems doc hdoc) hv
      exact ⟨by omega, hnumbers⟩
    have hdepth := Json.itemsDepth_le_iff.mpr fun v hmem => (hparts v hmem).1
    refine ⟨.inr (by rw [Json.depth]; omega), fun n hmem => ?_⟩
    obtain ⟨v, hmem, hn⟩ := Json.mem_itemsNumbers_iff.mp hmem
    exact (hparts v hmem).2 n hn
  | mapping members ih =>
    obtain ⟨ms, hms, rfl⟩ := Option.map_eq_some_iff.mp h
    obtain ⟨hd, hmembers⟩ := hlegal
    rw [membersAreLegal_iff] at hmembers
    have hparts : ∀ m ∈ ms, m.2.depth ≤ nestingBound - (d + 1) ∧
        ∀ n ∈ m.2.numbers, ∃ l : Json.Literal, l.value? = some n := by
      intro m hmem
      rcases Json.exists_of_mem_membersToJson? hms hmem with hmem | ⟨member, hmember, hv⟩
      · cases hmem
      · obtain ⟨hdepth, hnumbers⟩ := ih member hmember (hmembers member hmember) hv
        exact ⟨by omega, hnumbers⟩
    have hdepth := Json.membersDepth_le_iff.mpr fun m hmem => (hparts m hmem).1
    refine ⟨.inr (by rw [Json.depth]; omega), fun n hmem => ?_⟩
    obtain ⟨m, hmem, hn⟩ := Json.mem_membersNumbers_iff.mp hmem
    exact (hparts m hmem).2 n hn
  | flawed => cases h

end Document

/-! ## The numbers of literals -/

namespace Json

namespace Literal

lemma absorb_lt {significand : Nat} (h : significand < significandBound) (ds : List Nat) :
    (absorb significand ds).1 < significandBound := by
  induction ds generalizing significand with
  | nil => exact h
  | cons d ds ih =>
    rw [absorb]
    split
    · rename_i hfits
      exact ih hfits
    · exact h

lemma exists_double_of_binary? {l : Literal} {significand : Nat} {shift : Int} {n : Number}
    (h : l.binary? significand shift = some n) : ∃ x, n = .double x := by
  obtain ⟨x, -, rfl⟩ := Option.map_eq_some_iff.mp h
  exact ⟨_, rfl⟩

/-- A literal denotes a whole number within a 64-bit word, or a binary number. -/
lemma value?_cases {l : Literal} {n : Number} (h : l.value? = some n) :
    n.isExact ∨ ∃ x, n = .double x := by
  have hlt := absorb_lt (show 0 < significandBound by decide) l.digits
  unfold value? at h
  split at h
  · rename_i significand habsorb _
    rw [habsorb] at hlt
    have hbound : significand < 18446744073709551616 := hlt
    split at h
    · exact .inr (exists_double_of_binary? h)
    · split at h
      · obtain rfl := Option.some.inj h
        left
        rw [Number.isExact, Bool.and_eq_true, decide_eq_true_eq, decide_eq_true_eq]
        omega
      · split at h
        · exact .inr (exists_double_of_binary? h)
        · rename_i hhalf
          obtain rfl := Option.some.inj h
          have hfits : ¬significandBound / 2 < significand := fun h => hhalf (.inr h)
          have hle : ¬9223372036854775808 < significand := hfits
          left
          rw [Number.isExact, Bool.and_eq_true, decide_eq_true_eq, decide_eq_true_eq]
          omega
  all_goals exact .inr (exists_double_of_binary? h)

end Literal

/-! ## What lasts -/

/-- A number lasts if its own text is read as that number. -/
def Number.Lasts (n : Number) : Prop :=
  n.reading = .number n

/-- Of the numbers that literals denote, only binary ones may not last. -/
lemma Number.lasts_or_double {l : Literal} {n : Number} (h : l.value? = some n) :
    n.Lasts ∨ ∃ x, n = .double x :=
  (Literal.value?_cases h).imp_left reading_of_isExact

lemma toJson?_eq_number_iff {doc : Document} {n : Number} :
    doc.toJson? = some (.number n) ↔ doc = .number n := by
  cases doc <;> simp [Document.toJson?]

lemma forall_mem_itemsNumbers_iff {p : Number → Prop} {vs : List Json} :
    (∀ n ∈ itemsNumbers vs, p n) ↔ ∀ v ∈ vs, ∀ n ∈ v.numbers, p n := by
  simp only [mem_itemsNumbers_iff]
  exact ⟨fun h v hv n hn => h n ⟨v, hv, hn⟩, fun h n ⟨v, hv, hn⟩ => h v hv n hn⟩

lemma forall_mem_membersNumbers_iff {p : Number → Prop} {ms : List (String × Json)} :
    (∀ n ∈ membersNumbers ms, p n) ↔ ∀ m ∈ ms, ∀ n ∈ m.2.numbers, p n := by
  simp only [mem_membersNumbers_iff]
  exact ⟨fun h m hm n hn => h n ⟨m, hm, hn⟩, fun h n ⟨m, hm, hn⟩ => h m hm n hn⟩

/-- A canonical value is read as it was written just when its numbers last and it is not nested too
deeply. -/
theorem toJson?_readAt_iff {v : Json} {d : Nat} (hd : d ≤ Document.nestingBound)
    (h : v.isCanonical) : (v.readAt d).toJson? = some v ↔
      (∀ n ∈ v.numbers, n.Lasts) ∧ d + v.depth ≤ Document.nestingBound := by
  induction v using inductionOn generalizing d with
  | null | bool | text => exact iff_of_true rfl ⟨List.forall_mem_nil _, hd⟩
  | number n =>
    rw [readAt, toJson?_eq_number_iff, numbers, List.forall_mem_singleton]
    exact (and_iff_left hd).symm
  | array items ih =>
    rw [isCanonical, areCanonical_iff] at h
    rw [readAt, numbers, depth]
    -- at the greatest depth even an empty array is read as a flaw
    by_cases hlt : d < Document.nestingBound
    · have hparts : (∀ v ∈ items, (v.readAt (d + 1)).toJson? = some v) ↔
          ∀ v ∈ items, (∀ n ∈ v.numbers, n.Lasts) ∧ v.depth ≤ Document.nestingBound - (d + 1) :=
        forall₂_congr fun v hmem =>
          (ih v hmem hlt (h v hmem)).trans (and_congr_right fun _ => by omega)
      have hdepth : d + (itemsDepth items + 1) ≤ Document.nestingBound ↔
          ∀ v ∈ items, v.depth ≤ Document.nestingBound - (d + 1) := by
        rw [← itemsDepth_le_iff]
        omega
      rw [nested_of_lt hlt, itemsReadAt_eq_map, toJson?_sequence_iff, hparts, hdepth,
        forall_mem_itemsNumbers_iff]
      simp only [← forall_and]
    · rw [nested, if_neg hlt, Document.toJson?]
      refine iff_of_false (Option.some_ne_none _).symm fun hboth => ?_
      have hdepth := hboth.2
      omega
  | object members ih =>
    rw [isCanonical, membersAreCanonical_iff] at h
    obtain ⟨hascend, h⟩ := h
    rw [readAt, numbers, depth]
    by_cases hlt : d < Document.nestingBound
    · have hparts : (∀ m ∈ members, (m.2.readAt (d + 1)).toJson? = some m.2) ↔
          ∀ m ∈ members,
            (∀ n ∈ m.2.numbers, n.Lasts) ∧ m.2.depth ≤ Document.nestingBound - (d + 1) :=
        forall₂_congr fun m hmem =>
          (ih m hmem hlt (h m hmem)).trans (and_congr_right fun _ => by omega)
      have hdepth : d + (membersDepth members + 1) ≤ Document.nestingBound ↔
          ∀ m ∈ members, m.2.depth ≤ Document.nestingBound - (d + 1) := by
        rw [← membersDepth_le_iff]
        omega
      have hvalues := toJson?_mapping_iff (f := fun v => v.readAt (d + 1)) hascend
      rw [nested_of_lt hlt, membersReadAt_eq_map, hvalues, hparts, hdepth,
        forall_mem_membersNumbers_iff]
      simp only [← forall_and]
    · rw [nested, if_neg hlt, Document.toJson?]
      refine iff_of_false (Option.some_ne_none _).symm fun hboth => ?_
      have hdepth := hboth.2
      omega

end Json

end BulkWrite
