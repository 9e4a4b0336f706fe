import BulkWrite.Decode.Choice
import BulkWrite.Duration
import BulkWrite.Proofs.Decode.Records
import BulkWrite.Proofs.Json.Reordering

/-!
# Decoding members in another order

A record has for each of its fields what it had before its members were put in another order, up to
the order within that part (`Document.Reordered.part_some`), and where it had nothing it still has
nothing. So a decoder of records ignores the order if the decoders of its fields do
(`Fields.IsOrderFree.record`); fields are put together by `Fields.IsOrderFree.map` and
`Fields.IsOrderFree.seq`, as the records themselves are.
-/

namespace BulkWrite

open Fields

/-! ## Parts of reordered documents -/

namespace Document

variable {part : Document} {index : Nat} {name : String}

/-- What a mapping has for a field is the only member of that name. -/
lemma part_some_iff {members : List (Option String × Document)} :
    (mapping members).Part index name (some part) ↔
      members.filter (·.1 = some name) = [(some name, part)] := by
  rw [Part, Option.toList_some]
  constructor
  · intro h
    obtain ⟨m, hm, rfl⟩ := List.map_eq_singleton_iff.mp h
    have hmem : m ∈ members.filter (·.1 = some name) := hm ▸ List.mem_cons_self
    have hname : m.1 = some name := of_decide_eq_true (List.mem_filter.mp hmem).2
    rw [hm, ← hname]
  · intro h
    rw [h, List.map_singleton]

namespace Reordered

variable {d d' part : Document} {index count : Nat} {name : String}

lemma isRecord_iff (h : d.Reordered d') : d.IsRecord count ↔ d'.IsRecord count := by
  induction h with
  | refl d => rfl
  | permuted _ hperm => simp only [IsRecord, hperm.mem_iff]
  | item before after _ _ => simp [IsRecord]
  | member before after name _ _ =>
    simp only [IsRecord, List.forall_mem_append, List.forall_mem_cons]
  | trans _ _ ih ih' => exact ih.trans ih'

/-- A member is what a mapping has for its name if no other one has that name. -/
lemma part_member_iff {before after : List (Option String × Document)} :
    (mapping (before ++ (some name, d) :: after)).Part index name (some part) ↔
      (∀ m ∈ before, m.1 ≠ some name) ∧ d = part ∧ ∀ m ∈ after, m.1 ≠ some name := by
  have hfilter : (before ++ (some name, d) :: after).filter (·.1 = some name) =
      before.filter (·.1 = some name) ++ (some name, d) :: after.filter (·.1 = some name) := by
    simp
  rw [part_some_iff, hfilter, List.append_eq_singleton_iff]
  simp [List.filter_eq_nil_iff]

/-- Where a document has nothing for a field, neither has it when it is reordered. -/
lemma part_none (h : d.Reordered d') (hpart : d.Part index name none) :
    d'.Part index name none := by
  induction h with
  | refl d => exact hpart
  | permuted _ hperm =>
    have hparts := (hperm.filter (·.1 = some name)).map Prod.snd
    exact (hpart ▸ hparts).symm.eq_nil
  | item before after _ _ =>
    rw [Part, List.getElem?_eq_none_iff] at hpart ⊢
    simpa using hpart
  | member before after other _ _ => simpa [Part] using hpart
  | trans _ _ ih ih' => exact ih' (ih hpart)

/-- What it has for a field is reordered with it. -/
lemma part_some (h : d.Reordered d') (hpart : d.Part index name (some part)) :
    ∃ part', d'.Part index name (some part') ∧ part.Reordered part' := by
  induction h generalizing part with
  | refl d => exact ⟨part, hpart, .refl part⟩
  | permuted _ hperm =>
    have hparts := (hperm.filter (·.1 = some name)).map Prod.snd
    exact ⟨part, (hpart ▸ hparts).symm.eq_singleton, .refl part⟩
  | @item d d' before after h _ =>
    rw [Part] at hpart
    rcases lt_trichotomy index before.length with hlt | rfl | hgt
    · rw [List.getElem?_append_left hlt] at hpart
      exact ⟨part, (List.getElem?_append_left hlt).trans hpart, .refl part⟩
    · have hhead : d = part := by simpa using hpart
      exact ⟨d', by simp [Part], hhead ▸ h⟩
    · obtain ⟨k, rfl⟩ := Nat.exists_eq_add_of_lt hgt
      rw [Nat.add_assoc, List.getElem?_append_right (by omega)] at hpart
      refine ⟨part, ?_, .refl part⟩
      rw [Part, Nat.add_assoc, List.getElem?_append_right (by omega)]
      simpa using hpart
  | @member d d' before after other h _ =>
    by_cases hname : other = some name
    · subst hname
      obtain ⟨hbefore, rfl, hafter⟩ := part_member_iff.mp hpart
      exact ⟨d', part_member_iff.mpr ⟨hbefore, rfl, hafter⟩, h⟩
    · exact ⟨part, by simpa [Part, hname] using hpart, .refl part⟩
  | trans _ _ ih ih' =>
    obtain ⟨between, hbetween, hfirst⟩ := ih hpart
    obtain ⟨part', hpart', hsecond⟩ := ih' hbetween
    exact ⟨part', hpart', hfirst.trans hsecond⟩

end Reordered

/-- The second document has for each field what the first one has for it, perhaps reordered. -/
def KeepsParts (d d' : Document) : Prop :=
  ∀ ⦃index : Nat⦄ ⦃name : String⦄ ⦃part : Document⦄, d.Part index name (some part) →
    ∃ part', d'.Part index name (some part') ∧ part.Reordered part'

namespace KeepsParts

variable {d d' : Document} {own others members : List (Option String × Document)}

lemma of_reordered (h : d.Reordered d') : d.KeepsParts d' := fun _ _ _ => h.part_some

/-- Members of other names do not count. -/
lemma of_perm (hothers : ∀ m ∈ others, ∀ n ∈ own, m.1 ≠ n.1)
    (hperm : members.Perm (own ++ others)) : (mapping own).KeepsParts (mapping members) := by
  intro index name part hpart
  have hown := part_some_iff.mp hpart
  have hmem : (some name, part) ∈ own := List.mem_of_mem_filter (hown ▸ List.mem_cons_self)
  have hnone : others.filter (·.1 = some name) = [] := by
    simpa [List.filter_eq_nil_iff] using fun m hm => hothers m hm _ hmem
  have hmembers := hperm.filter (·.1 = some name)
  rw [List.filter_append, hown, hnone] at hmembers
  exact ⟨part, part_some_iff.mpr hmembers.eq_singleton, .refl part⟩

/-- A text has nothing to reorder. -/
lemma text (h : d.KeepsParts d') {index : Nat} {name s : String}
    (hpart : d.Part index name (some (.text s))) : d'.Part index name (some (.text s)) := by
  obtain ⟨part', hpart', hreordered⟩ := h hpart
  rwa [hreordered.eq_of_leaf nofun nofun] at hpart'

end KeepsParts

end Document

/-! ## Decoders -/

variable {α β : Type}

/-- What a decoder makes of a document, it makes of the reordered one, too. -/
def Decoder.IsOrderFree (decoder : Decoder α) : Prop :=
  ∀ ⦃d d' : Document⦄, d.Reordered d' →
    ∀ ⦃a : α⦄, decoder .json d = .ok a → decoder .json d' = .ok a

namespace Decoder

variable {decoder : Decoder α} {d d' : Document}

/-- So both are decoded to the same value or neither is decoded. -/
lemma IsOrderFree.toOption_eq (h : decoder.IsOrderFree) (hd : d.Reordered d') :
    (decoder .json d).toOption = (decoder .json d').toOption := by
  cases hfirst : decoder .json d with
  | ok a => rw [h hd hfirst]
  | error cause =>
    cases hsecond : decoder .json d' with
    | ok a =>
      rw [h hd.symm hsecond] at hfirst
      cases hfirst
    | error cause' => rfl

/-- What takes neither arrays nor objects takes nothing that could be reordered. -/
lemma IsOrderFree.of_leaf (hsequence : ∀ items a, decoder .json (.sequence items) ≠ .ok a)
    (hmapping : ∀ members a, decoder .json (.mapping members) ≠ .ok a) : decoder.IsOrderFree := by
  intro d d' h a hdecode
  rw [h.eq_of_leaf]
  · exact hdecode
  · rintro items rfl
    exact hsequence _ _ hdecode
  · rintro members rfl
    exact hmapping _ _ hdecode

lemma IsOrderFree.map (h : decoder.IsOrderFree) (f : α → β) : (decoder.map f).IsOrderFree := by
  intro d d' hd b hdecode
  cases hfirst : decoder .json d with
  | error cause =>
    rw [Decoder.map, hfirst] at hdecode
    cases hdecode
  | ok a =>
    rw [Decoder.map, hfirst] at hdecode
    rw [Decoder.map, h hd hfirst]
    exact hdecode

lemma IsOrderFree.optional (h : decoder.IsOrderFree) : decoder.optional.IsOrderFree := by
  intro d d' hd o hdecode
  rw [optional_eq_ok_iff] at hdecode ⊢
  rcases hdecode with ⟨hnull, ho⟩ | ⟨a, hnull, hdecode, ho⟩
  · exact .inl ⟨hd.null_iff.mp hnull, ho⟩
  · exact .inr ⟨a, mt hd.null_iff.mpr hnull, h hd hdecode, ho⟩

lemma forall₂_of_item {fits : Document → α → Prop} (h : ∀ a, fits d a → fits d' a)
    {before after : List Document} {as : List α}
    (hitems : List.Forall₂ fits (before ++ d :: after) as) :
    List.Forall₂ fits (before ++ d' :: after) as := by
  induction before generalizing as with
  | nil =>
    obtain ⟨a, rest, ha, hrest, rfl⟩ := List.forall₂_cons_left_iff.mp hitems
    exact .cons (h a ha) hrest
  | cons item before ih =>
    obtain ⟨a, rest, ha, hrest, rfl⟩ := List.forall₂_cons_left_iff.mp hitems
    exact .cons ha (ih hrest)

/-- Items are decoded one by one. -/
lemma IsOrderFree.list (h : decoder.IsOrderFree) : (Decoder.list decoder).IsOrderFree := by
  intro d d' hd as hdecode
  induction hd with
  | refl d => exact hdecode
  | permuted => cases hdecode
  | @item d d' before after hd _ =>
    rw [list_eq_ok_iff fun _ _ => Iff.rfl] at hdecode ⊢
    obtain ⟨ds, hds, hitems⟩ := hdecode
    cases hds
    exact ⟨_, rfl, forall₂_of_item (fun _ ha => h hd ha) hitems⟩
  | member => cases hdecode
  | trans _ _ ih ih' => exact ih' (ih hdecode)

lemma isOrderFree_text : text.IsOrderFree := .of_leaf nofun nofun

lemma isOrderFree_bool : bool.IsOrderFree := .of_leaf nofun nofun

lemma isOrderFree_natural (bits : Nat) (wanted : String) : (natural bits wanted).IsOrderFree :=
  .of_leaf nofun nofun

lemma isOrderFree_word16 : word16.IsOrderFree := (isOrderFree_natural _ _).map _

lemma isOrderFree_word32 : word32.IsOrderFree := (isOrderFree_natural _ _).map _

lemma isOrderFree_word64 : word64.IsOrderFree := (isOrderFree_natural _ _).map _

lemma isOrderFree_size : size.IsOrderFree := (isOrderFree_natural _ _).map _

/-- A free value is kept with its members ascending. -/
lemma isOrderFree_value : value.IsOrderFree := by
  intro d d' hd v hdecode
  rw [value_eq_ok_iff] at hdecode ⊢
  rw [← hd.toJson?_eq, hdecode]

end Decoder

lemma Duration.isOrderFree_decoder : decoder.IsOrderFree := (Decoder.isOrderFree_natural _ _).map _

/-! ## Keywords -/

namespace Vocabulary

variable {v : Vocabulary α} {d : Document} {a : α}

lemma known_eq_ok_iff {name : String} : v.known name = .ok a ↔ v.find? name = some a := by
  unfold known
  cases v.find? name <;> simp

/-- A keyword is a text, or the name of the only member of an object, which is null. -/
lemma decoder_eq_ok_iff : v.decoder .json d = .ok a ↔
    ∃ name, v.find? name = some a ∧ (d = .text name ∨ d = .mapping [(some name, .null)]) := by
  have hnothing (d : Document) : nothing d = .ok () ↔ d = .null := by
    cases d <;> simp [nothing]
  cases d with
  | text s => simp [decoder, known_eq_ok_iff]
  | mapping members =>
    rcases members with - | ⟨⟨- | name, d⟩, rest⟩
    · simp [decoder]
    · simp [decoder]
    · -- name, value and number of members are looked at one after the other
      have hall : v.decoder .json (.mapping ((some name, d) :: rest)) = .ok a ↔
          v.known name = .ok a ∧ nothing d = .ok () ∧ rest = [] := by
        rw [decoder]
        cases v.known name <;> cases nothing d <;> cases rest <;>
          simp [bind, Except.bind, pure, Except.pure, throw, throwThe, MonadExceptOf.throw]
      rw [hall, known_eq_ok_iff, hnothing]
      simp [and_assoc]
  | null | bool | number | sequence | flawed => simp [decoder]

lemma isOrderFree_decoder (v : Vocabulary α) : v.decoder.IsOrderFree := by
  intro d d' hd a hdecode
  obtain ⟨name, -, rfl | rfl⟩ := decoder_eq_ok_iff.mp hdecode
  · rwa [hd.eq_of_leaf nofun nofun]
  · rwa [hd.eq_of_single rfl]

end Vocabulary

/-! ## Records -/

namespace Fields

variable {fields : Fields α} {first : Fields (α → β)}

/-- What fields make of a document, they make of the reordered one, too. -/
def IsOrderFree (fields : Fields α) : Prop :=
  ∀ ⦃d d' : Document⦄, d.Reordered d' → ∀ ⦃index : Nat⦄ ⦃wanted : String⦄ ⦃a : α⦄,
    fields.read .json index (d.slot wanted) = .ok a →
      fields.read .json index (d'.slot wanted) = .ok a

lemma IsOrderFree.map (h : fields.IsOrderFree) (f : α → β) : (f <$> fields).IsOrderFree := by
  intro d d' hd index wanted b hread
  obtain ⟨a, ha, hb⟩ := read_map_iff.mp hread
  exact read_map_iff.mpr ⟨a, h hd ha, hb⟩

lemma IsOrderFree.seq (hfirst : first.IsOrderFree) (h : fields.IsOrderFree) :
    (first <*> fields).IsOrderFree := by
  intro d d' hd index wanted b hread
  obtain ⟨g, a, hg, ha, hb⟩ := read_seq_iff.mp hread
  exact read_seq_iff.mpr ⟨g, a, hfirst hd hg, h hd ha, hb⟩

/-- A record looks for its fields by name, so it finds them wherever they stand. -/
lemma IsOrderFree.record (h : fields.IsOrderFree) (name : String) :
    (record name fields).IsOrderFree := by
  intro d d' hd a hdecode
  rw [record_eq_ok_iff] at hdecode ⊢
  exact ⟨hd.isRecord_iff.mp hdecode.1, h hd hdecode.2⟩

end Fields

namespace Decoder.IsOrderFree

variable {decoder : Decoder α}

lemma field (h : decoder.IsOrderFree) (name : String) (default : Option α) :
    (Fields.field name default decoder).IsOrderFree := by
  intro d d' hd index wanted a hread
  rw [read_field_iff] at hread ⊢
  rcases hread with ⟨hnone, hdefault⟩ | ⟨part, hpart, hdecode⟩
  · exact .inl ⟨hd.part_none hnone, hdefault⟩
  · obtain ⟨part', hpart', hreordered⟩ := hd.part_some hpart
    exact .inr ⟨part', hpart', h hreordered hdecode⟩

lemma required (h : decoder.IsOrderFree) (name : String) :
    (Fields.required name decoder).IsOrderFree := h.field name none

lemma absentAs (h : decoder.IsOrderFree) (name : String) (default : α) :
    (Fields.absentAs name default decoder).IsOrderFree := h.field name (some default)

lemma absentOrNull (h : decoder.IsOrderFree) (name : String) :
    (Fields.optional name decoder).IsOrderFree := h.optional.field name (some none)

end Decoder.IsOrderFree

end BulkWrite
