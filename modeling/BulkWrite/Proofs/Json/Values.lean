import Mathlib.Tactic.Lemma
import BulkWrite.Json.Document

/-!
# Values as documents

A value holds less than the document it was read from, and every value is held by a document of its
own (`Json.toDocument`), which has no flaw. That document gives the value back if the value is
canonical (`Json.toJson?_toDocument`): the names in each of its objects ascend.

Two more things decide whether a text can hold a value: how deeply its arrays and objects are nested
(`Json.depth`), and whether all of its numbers are whole and within a 64-bit word
(`Json.isExact`).
-/

namespace BulkWrite

/-! ## Induction -/

/-- What holds of a document if it holds of its parts holds of every document. -/
@[elab_as_elim]
theorem Document.inductionOn {P : Document → Prop} (d : Document) (null : P .null)
    (bool : ∀ b, P (.bool b)) (number : ∀ n, P (.number n)) (text : ∀ s, P (.text s))
    (sequence : ∀ items, (∀ d ∈ items, P d) → P (.sequence items))
    (mapping : ∀ members, (∀ m ∈ members, P m.2) → P (.mapping members)) (flawed : P .flawed) :
    P d :=
  @Document.rec P (fun items => ∀ d ∈ items, P d) (fun members => ∀ m ∈ members, P m.2)
    (fun m => P m.2) null bool number text sequence mapping flawed nofun
    (fun _ _ hd hds => List.forall_mem_cons.mpr ⟨hd, hds⟩) nofun
    (fun _ _ hm hms => List.forall_mem_cons.mpr ⟨hm, hms⟩) (fun _ _ hd => hd) d

namespace Json

/-- What holds of a value if it holds of its parts holds of every value. -/
@[elab_as_elim]
theorem inductionOn {P : Json → Prop} (v : Json) (null : P .null) (bool : ∀ b, P (.bool b))
    (number : ∀ n, P (.number n)) (text : ∀ s, P (.text s))
    (array : ∀ items, (∀ v ∈ items, P v) → P (.array items))
    (object : ∀ members, (∀ m ∈ members, P m.2) → P (.object members)) : P v :=
  @Json.rec P (fun items => ∀ v ∈ items, P v) (fun members => ∀ m ∈ members, P m.2)
    (fun m => P m.2) null bool number text array object nofun
    (fun _ _ hv hvs => List.forall_mem_cons.mpr ⟨hv, hvs⟩) nofun
    (fun _ _ hm hms => List.forall_mem_cons.mpr ⟨hm, hms⟩) (fun _ _ hv => hv) v

/-! ## The document of a value -/

mutual

/-- The document that holds a value. -/
def toDocument : Json → Document
  | .null => .null
  | .bool b => .bool b
  | .number n => .number n
  | .text s => .text s
  | .array items => .sequence (itemsToDocument items)
  | .object members => .mapping (membersToDocument members)

/-- The documents of the items of an array. -/
def itemsToDocument : List Json → List Document
  | [] => []
  | v :: vs => v.toDocument :: itemsToDocument vs

/-- The documents of the members of an object. -/
def membersToDocument : List (String × Json) → List (Option String × Document)
  | [] => []
  | (name, v) :: ms => (some name, v.toDocument) :: membersToDocument ms

end

lemma itemsToDocument_eq_map (vs : List Json) : itemsToDocument vs = vs.map toDocument := by
  induction vs with
  | nil => rfl
  | cons v vs ih => rw [itemsToDocument, ih, List.map_cons]

lemma membersToDocument_eq_map (ms : List (String × Json)) :
    membersToDocument ms = ms.map fun m => (some m.1, m.2.toDocument) := by
  induction ms with
  | nil => rfl
  | cons m ms ih => rw [membersToDocument, ih, List.map_cons]

mutual

/-- The document of a value has no flaw. -/
lemma isSound_toDocument : ∀ v : Json, v.toDocument.isSound
  | .null | .bool _ | .number _ | .text _ => rfl
  | .array items => areSound_toDocument items
  | .object members => membersAreSound_toDocument members

lemma areSound_toDocument : ∀ vs : List Json, Document.areSound (itemsToDocument vs)
  | [] => rfl
  | v :: vs => by
    rw [itemsToDocument, Document.areSound, isSound_toDocument v, areSound_toDocument vs]
    rfl

lemma membersAreSound_toDocument :
    ∀ ms : List (String × Json), Document.membersAreSound (membersToDocument ms)
  | [] => rfl
  | (name, v) :: ms => by
    rw [membersToDocument, Document.membersAreSound, isSound_toDocument v,
      membersAreSound_toDocument ms]
    rfl

end

/-! ## Nesting -/

mutual

/-- How deeply arrays and objects are nested in a value. -/
def depth : Json → Nat
  | .array items => itemsDepth items + 1
  | .object members => membersDepth members + 1
  | _ => 0

/-- How deeply they are nested in any of the items. -/
def itemsDepth : List Json → Nat
  | [] => 0
  | v :: vs => max v.depth (itemsDepth vs)

/-- How deeply they are nested in any of the members. -/
def membersDepth : List (String × Json) → Nat
  | [] => 0
  | (_, v) :: ms => max v.depth (membersDepth ms)

end

lemma itemsDepth_le_iff {n : Nat} {vs : List Json} : itemsDepth vs ≤ n ↔ ∀ v ∈ vs, v.depth ≤ n := by
  induction vs with
  | nil => simp [itemsDepth]
  | cons v vs ih => rw [itemsDepth, Nat.max_le, ih, List.forall_mem_cons]

lemma membersDepth_le_iff {n : Nat} {ms : List (String × Json)} :
    membersDepth ms ≤ n ↔ ∀ m ∈ ms, m.2.depth ≤ n := by
  induction ms with
  | nil => simp [membersDepth]
  | cons m ms ih => rw [membersDepth, Nat.max_le, ih, List.forall_mem_cons]

/-! ## Numbers -/

mutual

/-- All numbers in a value. -/
def numbers : Json → List Number
  | .number n => [n]
  | .array items => itemsNumbers items
  | .object members => membersNumbers members
  | _ => []

/-- All numbers in the items. -/
def itemsNumbers : List Json → List Number
  | [] => []
  | v :: vs => v.numbers ++ itemsNumbers vs

/-- All numbers in the members. -/
def membersNumbers : List (String × Json) → List Number
  | [] => []
  | (_, v) :: ms => v.numbers ++ membersNumbers ms

end

lemma mem_itemsNumbers_iff {n : Number} {vs : List Json} :
    n ∈ itemsNumbers vs ↔ ∃ v ∈ vs, n ∈ v.numbers := by
  induction vs with
  | nil => simp [itemsNumbers]
  | cons v vs ih => simp only [itemsNumbers, List.mem_append, ih, List.mem_cons, exists_eq_or_imp]

lemma mem_membersNumbers_iff {n : Number} {ms : List (String × Json)} :
    n ∈ membersNumbers ms ↔ ∃ m ∈ ms, n ∈ m.2.numbers := by
  induction ms with
  | nil => simp [membersNumbers]
  | cons m ms ih =>
    simp only [membersNumbers, List.mem_append, ih, List.mem_cons, exists_eq_or_imp]

/-- Whether a number is whole and within a 64-bit word, signed or not. -/
def Number.isExact : Number → Bool
  | .whole n => -0x8000000000000000 ≤ n && n < 0x10000000000000000
  | .double _ | .single _ => false

mutual

/-- Whether all numbers in a value are whole and within a 64-bit word. -/
def isExact : Json → Bool
  | .number n => n.isExact
  | .array items => areExact items
  | .object members => membersAreExact members
  | _ => true

/-- Whether all numbers in all of the items are. -/
def areExact : List Json → Bool
  | [] => true
  | v :: vs => v.isExact && areExact vs

/-- Whether all numbers in all of the members are. -/
def membersAreExact : List (String × Json) → Bool
  | [] => true
  | (_, v) :: ms => v.isExact && membersAreExact ms

end

lemma areExact_iff {vs : List Json} : areExact vs ↔ ∀ v ∈ vs, v.isExact := by
  induction vs with
  | nil => simp [areExact]
  | cons v vs ih => rw [areExact, Bool.and_eq_true, ih, List.forall_mem_cons]

lemma membersAreExact_iff {ms : List (String × Json)} :
    membersAreExact ms ↔ ∀ m ∈ ms, m.2.isExact := by
  induction ms with
  | nil => simp [membersAreExact]
  | cons m ms ih => rw [membersAreExact, Bool.and_eq_true, ih, List.forall_mem_cons]

lemma isExact_whole {n : Nat} (h : n < UInt64.size) : (whole n).isExact := by
  have hlt : n < 0x10000000000000000 := h
  rw [whole, isExact, Number.isExact, Bool.and_eq_true, decide_eq_true_eq, decide_eq_true_eq]
  omega

/-! ## Canonical values -/

mutual

/-- Whether the names in each object ascend. -/
def isCanonical : Json → Bool
  | .array items => areCanonical items
  | .object members => membersAreCanonical members
  | _ => true

/-- Whether they do in all of the items. -/
def areCanonical : List Json → Bool
  | [] => true
  | v :: vs => v.isCanonical && areCanonical vs

/-- Whether they do in all of the members, and among these members. -/
def membersAreCanonical : List (String × Json) → Bool
  | [] => true
  | (name, v) :: ms =>
    ms.all (fun m => name < m.1) && v.isCanonical && membersAreCanonical ms

end

lemma areCanonical_iff {vs : List Json} : areCanonical vs ↔ ∀ v ∈ vs, v.isCanonical := by
  induction vs with
  | nil => simp [areCanonical]
  | cons v vs ih => rw [areCanonical, Bool.and_eq_true, ih, List.forall_mem_cons]

lemma membersAreCanonical_iff {ms : List (String × Json)} :
    membersAreCanonical ms ↔ ms.Pairwise (fun m m' => m.1 < m'.1) ∧ ∀ m ∈ ms, m.2.isCanonical := by
  induction ms with
  | nil => simp [membersAreCanonical]
  | cons m ms ih =>
    rw [membersAreCanonical, Bool.and_eq_true, Bool.and_eq_true, ih, List.all_eq_true,
      List.pairwise_cons, List.forall_mem_cons]
    simp only [decide_eq_true_eq]
    constructor
    · rintro ⟨⟨hfirst, hvalue⟩, hrest, hvalues⟩
      exact ⟨⟨hfirst, hrest⟩, hvalue, hvalues⟩
    · rintro ⟨⟨hfirst, hrest⟩, hvalue, hvalues⟩
      exact ⟨⟨hfirst, hvalue⟩, hrest, hvalues⟩

/-! ## The value of a document -/

lemma mem_insert {name : String} {v : Json} {m : String × Json} {before : List (String × Json)}
    (h : m ∈ insert name v before) : m = (name, v) ∨ m ∈ before := by
  induction before with
  | nil => exact .inl (List.mem_singleton.mp h)
  | cons first before ih =>
    obtain ⟨other, w⟩ := first
    rw [insert] at h
    split at h
    · exact List.mem_cons.mp h
    · split at h
      · rcases List.mem_cons.mp h with rfl | h
        · exact .inl rfl
        · exact .inr (List.mem_cons_of_mem _ h)
      · rcases List.mem_cons.mp h with rfl | h
        · exact .inr List.mem_cons_self
        · exact (ih h).imp_right (List.mem_cons_of_mem _)

/-- A member is put where its name belongs. -/
lemma pairwise_insert {name : String} {v : Json} {before : List (String × Json)}
    (h : before.Pairwise fun m m' => m.1 < m'.1) :
    (insert name v before).Pairwise fun m m' => m.1 < m'.1 := by
  induction before with
  | nil => exact List.pairwise_singleton _ _
  | cons first before ih =>
    obtain ⟨other, w⟩ := first
    obtain ⟨hfirst, hrest⟩ := List.pairwise_cons.mp h
    rw [insert]
    split
    · rename_i hlt
      refine List.pairwise_cons.mpr ⟨fun m hmem => ?_, h⟩
      rcases List.mem_cons.mp hmem with rfl | hmem
      · exact hlt
      · exact String.lt_trans hlt (hfirst m hmem)
    · rename_i hge
      split
      · rename_i heq
        exact List.pairwise_cons.mpr ⟨fun m hmem => heq ▸ hfirst m hmem, hrest⟩
      · rename_i hne
        have hlt : other < name := by
          apply String.not_le.mp
          intro hle
          exact hne (String.le_antisymm hle (String.not_lt.mp hge))
        refine List.pairwise_cons.mpr ⟨fun m hmem => ?_, ih hrest⟩
        rcases mem_insert hmem with rfl | hmem
        · exact hlt
        · exact hfirst m hmem

/-- The members of a document stand in its value, in order. -/
lemma pairwise_membersToJson? : ∀ {ms : List (Option String × Document)}
    {before after : List (String × Json)}, Document.membersToJson? ms before = some after →
    (before.Pairwise fun m m' => m.1 < m'.1) → after.Pairwise fun m m' => m.1 < m'.1
  | [], _, _, h, hbefore => by
    rw [Document.membersToJson?, Option.some.injEq] at h
    exact h ▸ hbefore
  | (none, _) :: _, _, _, h, _ => by
    rw [Document.membersToJson?] at h
    cases h
  | (some name, d) :: ms, _, _, h, hbefore => by
    rw [Document.membersToJson?] at h
    split at h
    · exact pairwise_membersToJson? h (pairwise_insert hbefore)
    · cases h

/-- Each of them is the value of one of the documents. -/
lemma exists_of_mem_membersToJson? : ∀ {ms : List (Option String × Document)}
    {before after : List (String × Json)} {m : String × Json},
    Document.membersToJson? ms before = some after → m ∈ after →
    m ∈ before ∨ ∃ member ∈ ms, member.2.toJson? = some m.2
  | [], _, _, _, h, hmem => by
    rw [Document.membersToJson?, Option.some.injEq] at h
    exact .inl (h ▸ hmem)
  | (none, _) :: _, _, _, _, h, _ => by
    rw [Document.membersToJson?] at h
    cases h
  | (some name, d) :: ms, _, _, _, h, hmem => by
    rw [Document.membersToJson?] at h
    split at h
    · rename_i v hvalue
      rcases exists_of_mem_membersToJson? h hmem with hmem | ⟨member, hmem, hm⟩
      · rcases mem_insert hmem with rfl | hmem
        · exact .inr ⟨(some name, d), List.mem_cons_self, hvalue⟩
        · exact .inl hmem
      · exact .inr ⟨member, List.mem_cons_of_mem _ hmem, hm⟩
    · cases h

/-- Each item is the value of one of the documents. -/
lemma exists_of_mem_itemsToJson? : ∀ {ds : List Document} {vs : List Json} {v : Json},
    Document.itemsToJson? ds = some vs → v ∈ vs → ∃ d ∈ ds, d.toJson? = some v
  | [], _, _, h, hmem => by
    rw [Document.itemsToJson?, Option.some.injEq] at h
    rw [← h] at hmem
    cases hmem
  | d :: ds, _, _, h, hmem => by
    rw [Document.itemsToJson?] at h
    split at h
    · rename_i v vs hvalue hvalues
      rw [← Option.some.inj h] at hmem
      rcases List.mem_cons.mp hmem with rfl | hmem
      · exact ⟨d, List.mem_cons_self, hvalue⟩
      · obtain ⟨d', hmem', hd'⟩ := exists_of_mem_itemsToJson? hvalues hmem
        exact ⟨d', List.mem_cons_of_mem _ hmem', hd'⟩
    · cases h

/-- The value of a document is canonical. -/
lemma isCanonical_of_toJson? {d : Document} {v : Json} (h : d.toJson? = some v) :
    v.isCanonical := by
  induction d using Document.inductionOn generalizing v with
  | null | bool | number | text =>
    obtain rfl := Option.some.inj h
    rfl
  | sequence items ih =>
    obtain ⟨vs, hvs, rfl⟩ := Option.map_eq_some_iff.mp h
    rw [isCanonical, areCanonical_iff]
    intro v hmem
    obtain ⟨d, hd, hv⟩ := exists_of_mem_itemsToJson? hvs hmem
    exact ih d hd hv
  | mapping members ih =>
    obtain ⟨ms, hms, rfl⟩ := Option.map_eq_some_iff.mp h
    rw [isCanonical, membersAreCanonical_iff]
    refine ⟨pairwise_membersToJson? hms List.Pairwise.nil, fun m hmem => ?_⟩
    rcases exists_of_mem_membersToJson? hms hmem with hmem | ⟨member, hmem, hv⟩
    · cases hmem
    · exact ih member hmem hv
  | flawed => cases h

/-! ## Documents that give a value back -/

lemma itemsToJson?_eq_some_iff {f : Json → Document} {vs : List Json} :
    Document.itemsToJson? (vs.map f) = some vs ↔ ∀ v ∈ vs, (f v).toJson? = some v := by
  induction vs with
  | nil => simp [Document.itemsToJson?]
  | cons v vs ih =>
    rw [List.map_cons, Document.itemsToJson?, List.forall_mem_cons, ← ih]
    cases (f v).toJson? <;> cases Document.itemsToJson? (vs.map f) <;> simp

/-- A member whose name comes behind all others goes to the end. -/
lemma insert_of_lt {name : String} {before : List (String × Json)}
    (h : ∀ m ∈ before, m.1 < name) (v : Json) : insert name v before = before ++ [(name, v)] := by
  induction before with
  | nil => rfl
  | cons m before ih =>
    obtain ⟨other, w⟩ := m
    have hlt : other < name := h (other, w) List.mem_cons_self
    have hne : name ≠ other := by
      rintro rfl
      exact String.lt_irrefl _ hlt
    rw [insert, if_neg (String.lt_asymm hlt), if_neg hne,
      ih fun m hmem => h m (List.mem_cons_of_mem _ hmem), List.cons_append]

/-- The next of ascending members goes to the end of those before it. -/
lemma membersToJson?_cons {name : String} {d : Document} {v : Json}
    {before : List (String × Json)} (hbefore : ∀ m ∈ before, m.1 < name)
    (h : d.toJson? = some v) (ms : List (Option String × Document)) :
    Document.membersToJson? ((some name, d) :: ms) before =
      Document.membersToJson? ms (before ++ [(name, v)]) := by
  rw [Document.membersToJson?, h]
  simp only [insert_of_lt hbefore]

lemma lt_of_mem_concat {name : String} {v : Json} {before ms : List (String × Json)}
    (hms : ∀ m' ∈ ms, name < m'.1) (hbefore : ∀ m ∈ before, ∀ m' ∈ ms, m.1 < m'.1) :
    ∀ m ∈ before ++ [(name, v)], ∀ m' ∈ ms, m.1 < m'.1 := by
  intro m hmem m' hmem'
  rcases List.mem_append.mp hmem with hmem | hmem
  · exact hbefore m hmem m' hmem'
  · rw [List.mem_singleton.mp hmem]
    exact hms m' hmem'

/-- The members before ascending ones stay in front of them. -/
lemma prefix_of_membersToJson? {f : Json → Document} {ms before after : List (String × Json)}
    (hms : ms.Pairwise fun m m' => m.1 < m'.1) (hbefore : ∀ m ∈ before, ∀ m' ∈ ms, m.1 < m'.1)
    (h : Document.membersToJson? (ms.map fun m => (some m.1, f m.2)) before = some after) :
    before <+: after := by
  induction ms generalizing before with
  | nil => exact ⟨[], by rw [List.append_nil]; exact Option.some.inj h⟩
  | cons m ms ih =>
    obtain ⟨hfirst, hrest⟩ := List.pairwise_cons.mp hms
    simp only [List.forall_mem_cons, imp_and, forall_and] at hbefore
    obtain ⟨hlast, hbefore⟩ := hbefore
    cases hvalue : (f m.2).toJson? with
    | none =>
      rw [List.map_cons, Document.membersToJson?, hvalue] at h
      cases h
    | some v =>
      rw [List.map_cons, membersToJson?_cons hlast hvalue] at h
      exact (List.prefix_append before _).trans (ih hrest (lt_of_mem_concat hfirst hbefore) h)

/-- Ascending members give values back just when each of them does. -/
lemma membersToJson?_eq_some_iff {f : Json → Document} {ms before : List (String × Json)}
    (hms : ms.Pairwise fun m m' => m.1 < m'.1) (hbefore : ∀ m ∈ before, ∀ m' ∈ ms, m.1 < m'.1) :
    Document.membersToJson? (ms.map fun m => (some m.1, f m.2)) before = some (before ++ ms) ↔
      ∀ m ∈ ms, (f m.2).toJson? = some m.2 := by
  induction ms generalizing before with
  | nil => simp [Document.membersToJson?]
  | cons m ms ih =>
    obtain ⟨hfirst, hrest⟩ := List.pairwise_cons.mp hms
    simp only [List.forall_mem_cons, imp_and, forall_and] at hbefore
    obtain ⟨hlast, hbefore⟩ := hbefore
    cases hvalue : (f m.2).toJson? with
    | none =>
      rw [List.map_cons, Document.membersToJson?, hvalue, List.forall_mem_cons, hvalue]
      simp
    | some v =>
      have hnext := lt_of_mem_concat (v := v) hfirst hbefore
      rw [List.map_cons, membersToJson?_cons hlast hvalue, List.forall_mem_cons, hvalue,
        ← ih hrest hnext, Option.some.injEq, List.append_assoc, List.singleton_append]
      constructor
      · intro h
        -- what is put in front stays there, so it is the member itself
        obtain ⟨tail, htail⟩ := prefix_of_membersToJson? hrest hnext h
        rw [List.append_assoc, List.append_cancel_left_eq, List.singleton_append] at htail
        have hsame : (m.1, v) = m := (List.cons.inj htail).1
        rw [hsame] at h ⊢
        exact ⟨congrArg Prod.snd hsame, h⟩
      · rintro ⟨rfl, h⟩
        exact h

lemma toJson?_sequence_iff {f : Json → Document} {vs : List Json} :
    (Document.sequence (vs.map f)).toJson? = some (.array vs) ↔
      ∀ v ∈ vs, (f v).toJson? = some v := by
  rw [← itemsToJson?_eq_some_iff]
  simp [Document.toJson?]

lemma toJson?_mapping_iff {f : Json → Document} {ms : List (String × Json)}
    (hms : ms.Pairwise fun m m' => m.1 < m'.1) :
    (Document.mapping (ms.map fun m => (some m.1, f m.2))).toJson? = some (.object ms) ↔
      ∀ m ∈ ms, (f m.2).toJson? = some m.2 := by
  have hvalues : Document.membersToJson? (ms.map fun m => (some m.1, f m.2)) [] = some ms ↔ _ :=
    membersToJson?_eq_some_iff hms nofun
  rw [← hvalues]
  simp [Document.toJson?]

/-- The document of a canonical value gives it back. -/
lemma toJson?_toDocument {v : Json} (h : v.isCanonical) : v.toDocument.toJson? = some v := by
  induction v using inductionOn with
  | null | bool | number | text => rfl
  | array items ih =>
    rw [isCanonical, areCanonical_iff] at h
    rw [toDocument, itemsToDocument_eq_map, toJson?_sequence_iff]
    exact fun v hmem => ih v hmem (h v hmem)
  | object members ih =>
    rw [isCanonical, membersAreCanonical_iff] at h
    rw [toDocument, membersToDocument_eq_map, toJson?_mapping_iff h.1]
    exact fun m hmem => ih m hmem (h.2 m hmem)

end Json

end BulkWrite
