import Mathlib.Data.List.Nodup
import Mathlib.Data.String.Basic
import BulkWrite.Proofs.Json.Values

/-!
# Members in another order

The members of an object have no order of their own, but a document keeps the one in which they were
written. `Document.Reordered` says that two documents differ in that order only. A document and the
same one reordered are both sound or both flawed (`Reordered.isSound_eq`), and they hold the same
value (`Reordered.toJson?_eq`): free members are put where their names belong, so it does not matter
which of two different names comes first (`Json.insert_comm`).
-/

namespace BulkWrite

namespace Document

/-- The second document is the first one with members in another order: the members of any mapping
may be permuted in which no name that can be read stands twice, at any depth and in any number of
mappings. -/
inductive Reordered : Document → Document → Prop
  | refl (d : Document) : Reordered d d
  | permuted {members members' : List (Option String × Document)}
      (hnames : (members.filterMap Prod.fst).Nodup) (hperm : members.Perm members') :
      Reordered (.mapping members) (.mapping members')
  | item {d d' : Document} (before after : List Document) (h : Reordered d d') :
      Reordered (.sequence (before ++ d :: after)) (.sequence (before ++ d' :: after))
  | member {d d' : Document} (before after : List (Option String × Document))
      (name : Option String) (h : Reordered d d') :
      Reordered (.mapping (before ++ (name, d) :: after)) (.mapping (before ++ (name, d') :: after))
  | trans {d₁ d₂ d₃ : Document} (h : Reordered d₁ d₂) (h' : Reordered d₂ d₃) : Reordered d₁ d₃

/-! ## Flaws -/

lemma areSound_iff {ds : List Document} : areSound ds ↔ ∀ d ∈ ds, d.isSound := by
  induction ds with
  | nil => simp [areSound]
  | cons d ds ih => rw [areSound, Bool.and_eq_true, ih, List.forall_mem_cons]

lemma membersAreSound_iff {ms : List (Option String × Document)} :
    membersAreSound ms ↔ ∀ m ∈ ms, m.1.isSome ∧ m.2.isSound := by
  induction ms with
  | nil => simp [membersAreSound]
  | cons m ms ih =>
    rw [membersAreSound, Bool.and_eq_true, Bool.and_eq_true, ih, List.forall_mem_cons]

end Document

/-! ## Free members -/

namespace Json

/-- Two members of different names may be inserted in either order. -/
lemma insert_comm {name other : String} (hne : name ≠ other) (v w : Json)
    (before : List (String × Json)) :
    insert name v (insert other w before) = insert other w (insert name v before) := by
  induction before with
  | nil => grind [insert]
  | cons m before ih => grind [insert]

end Json

namespace Document

variable {d d' : Document}

lemma membersToJson?_of_perm {members members' : List (Option String × Document)}
    (hperm : members.Perm members') (hnames : (members.filterMap Prod.fst).Nodup)
    (acc : List (String × Json)) : membersToJson? members acc = membersToJson? members' acc := by
  induction hperm generalizing acc with
  | nil => rfl
  | @cons m members members' _ ih =>
    obtain ⟨name, d⟩ := m
    cases name with
    | none => rfl
    | some name =>
      rw [membersToJson?, membersToJson?]
      cases d.toJson? with
      | none => rfl
      | some v => exact ih (List.nodup_cons.mp hnames).2 _
  | swap m m' members =>
    obtain ⟨name, d⟩ := m
    obtain ⟨other, d'⟩ := m'
    cases name <;> cases other <;> simp only [membersToJson?]
    · cases d'.toJson? <;> rfl
    · cases d.toJson? <;> rfl
    · rename_i name other
      -- two members of different names may be inserted in either order
      have hne : name ≠ other := by
        rintro rfl
        simp at hnames
      cases d.toJson? <;> cases d'.toJson? <;> simp only [Json.insert_comm hne]
  | @trans members between members' hfirst _ ih ih' =>
    have hbetween := (hfirst.filterMap Prod.fst).nodup_iff.mp hnames
    exact (ih hnames acc).trans (ih' hbetween acc)

lemma membersToJson?_congr (h : d.toJson? = d'.toJson?) (name : Option String)
    (before after : List (Option String × Document)) (acc : List (String × Json)) :
    membersToJson? (before ++ (name, d) :: after) acc =
      membersToJson? (before ++ (name, d') :: after) acc := by
  induction before generalizing acc with
  | nil => cases name <;> simp only [List.nil_append, membersToJson?, h]
  | cons m before ih =>
    obtain ⟨other, w⟩ := m
    cases other <;> simp only [List.cons_append, membersToJson?, ih]

lemma itemsToJson?_congr (h : d.toJson? = d'.toJson?) (before after : List Document) :
    itemsToJson? (before ++ d :: after) = itemsToJson? (before ++ d' :: after) := by
  induction before with
  | nil => simp only [List.nil_append, itemsToJson?, h]
  | cons item before ih => simp only [List.cons_append, itemsToJson?, ih]

/-! ## What does not change -/

namespace Reordered

lemma symm (h : d.Reordered d') : d'.Reordered d := by
  induction h with
  | refl d => exact .refl d
  | permuted hnames hperm =>
    exact .permuted ((hperm.filterMap Prod.fst).nodup_iff.mp hnames) hperm.symm
  | item before after _ ih => exact .item before after ih
  | member before after name _ ih => exact .member before after name ih
  | trans _ _ ih ih' => exact .trans ih' ih

/-- What is neither an array nor an object has nothing to reorder. -/
lemma eq_of_leaf (h : d.Reordered d') (hsequence : ∀ items, d ≠ .sequence items)
    (hmapping : ∀ members, d ≠ .mapping members) : d' = d := by
  induction h with
  | refl d => rfl
  | permuted => exact absurd rfl (hmapping _)
  | item => exact absurd rfl (hsequence _)
  | member => exact absurd rfl (hmapping _)
  | trans _ _ ih ih' =>
    obtain rfl := ih hsequence hmapping
    exact ih' hsequence hmapping

/-- Neither has an object with one member that is null. -/
lemma eq_of_single {name : Option String} (h : d.Reordered d')
    (hsingle : d = .mapping [(name, .null)]) : d' = d := by
  induction h with
  | refl d => rfl
  | permuted _ hperm =>
    cases hsingle
    rw [hperm.symm.eq_singleton]
  | item => cases hsingle
  | @member d d' before after other h _ =>
    obtain ⟨rfl, ⟨rfl, rfl⟩, rfl⟩ : before = [] ∧ (other = name ∧ d = .null) ∧ after = [] := by
      simpa [List.append_eq_singleton_iff] using hsingle
    rw [h.eq_of_leaf nofun nofun]
  | trans _ _ ih ih' =>
    obtain rfl := ih hsingle
    exact ih' hsingle

lemma null_iff (h : d.Reordered d') : d = .null ↔ d' = .null := by
  constructor
  · rintro rfl
    exact h.eq_of_leaf nofun nofun
  · rintro rfl
    exact h.symm.eq_of_leaf nofun nofun

/-- A flaw stays one, wherever it is put. -/
lemma isSound_eq (h : d.Reordered d') : d.isSound = d'.isSound := by
  induction h with
  | refl d => rfl
  | permuted _ hperm =>
    rw [Bool.eq_iff_iff, isSound, isSound, membersAreSound_iff, membersAreSound_iff]
    simp only [hperm.mem_iff]
  | item before after _ ih =>
    rw [Bool.eq_iff_iff, isSound, isSound, areSound_iff, areSound_iff]
    simp only [List.forall_mem_append, List.forall_mem_cons, ih]
  | member before after name _ ih =>
    rw [Bool.eq_iff_iff, isSound, isSound, membersAreSound_iff, membersAreSound_iff]
    simp only [List.forall_mem_append, List.forall_mem_cons, ih]
  | trans _ _ ih ih' => exact ih.trans ih'

/-- The value does not tell in which order the members were. -/
lemma toJson?_eq (h : d.Reordered d') : d.toJson? = d'.toJson? := by
  induction h with
  | refl d => rfl
  | permuted hnames hperm => rw [toJson?, toJson?, membersToJson?_of_perm hperm hnames]
  | item before after _ ih => rw [toJson?, toJson?, itemsToJson?_congr ih]
  | member before after name _ ih => rw [toJson?, toJson?, membersToJson?_congr ih]
  | trans _ _ ih ih' => exact ih.trans ih'

end Reordered

end Document

end BulkWrite
