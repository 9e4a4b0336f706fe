import BulkWrite.Proofs.Decode.Written
import BulkWrite.Proofs.Json.Lasting
import BulkWrite.Proofs.Json.Singles
import BulkWrite.Store.Message

/-!
# Objects in the body of a request

The body of a request for objects holds the document of each object, in their order, as its text
would stand alone. What is read back from such a document is an object of the same identifier,
class, tenant and vector, or nothing (`ObjectItem.CarriedBy`). It is the same object just when its
numbers last (`ObjectItem.Lasts`) and it is not nested too deeply. A number in a vector lasts just
when it is finite: what is too large for the 32-bit format is accepted all the same, and is written
as null, which no vector may hold. Main statement: `ObjectItem.message_carries`.
-/

namespace BulkWrite

/-! ## The text of an array -/

namespace Json

lemma writeText_append (s : String) (cs rest : List Char) :
    writeText s (cs ++ rest) = writeText s cs ++ rest := by
  have hchars : ∀ text : List Char, writeChars text (cs ++ rest) = writeChars text cs ++ rest := by
    intro text
    induction text with
    | nil => rfl
    | cons c text ih => rw [writeChars, writeChars, ih, List.append_assoc]
  rw [writeText, hchars]
  rfl

mutual

/-- What follows a value does not count in its text. -/
lemma write_append : ∀ (v : Json) (cs rest : List Char), write v (cs ++ rest) = write v cs ++ rest
  | .null, _, _ | .bool true, _, _ | .bool false, _, _ | .array [], _, _ | .object [], _, _ => rfl
  | .number n, cs, rest => (List.append_assoc n.text cs rest).symm
  | .text s, cs, rest => writeText_append s cs rest
  | .array (v :: vs), cs, rest => by
    rw [write, writeItems_append vs, write_append v, write]
    rfl
  | .object ((name, v) :: ms), cs, rest => by
    rw [write, writeMembers_append ms, write_append v, ← List.cons_append, writeText_append, write]
    rfl

lemma writeItems_append : ∀ (vs : List Json) (cs rest : List Char),
    writeItems vs (cs ++ rest) = writeItems vs cs ++ rest
  | [], _, _ => rfl
  | v :: vs, cs, rest => by
    rw [writeItems, writeItems_append vs, write_append v, writeItems]
    rfl

lemma writeMembers_append : ∀ (ms : List (String × Json)) (cs rest : List Char),
    writeMembers ms (cs ++ rest) = writeMembers ms cs ++ rest
  | [], _, _ => rfl
  | (name, v) :: ms, cs, rest => by
    rw [writeMembers, writeMembers_append ms, write_append v, ← List.cons_append, writeText_append,
      writeMembers]
    rfl

end

/-- Between the brackets of an array stand the texts of its items. -/
lemma print_array (vs : List Json) :
    (Json.array vs).print = "[" ++ ",".intercalate (vs.map print) ++ "]" := by
  have hitems : ∀ (vs : List Json) (v : Json), write v (writeItems vs []) =
      [','].intercalate ((v :: vs).map fun v => write v []) ++ [']'] := by
    intro vs
    induction vs with
    | nil =>
      intro v
      rw [writeItems, List.map_singleton, List.intercalate_singleton]
      exact write_append v [] [']']
    | cons w ws ih =>
      intro v
      rw [writeItems, ih w, List.map_cons]
      have hfirst := write_append v []
        (',' :: ([','].intercalate ((w :: ws).map fun v => write v []) ++ [']']))
      simpa [List.intercalate_cons_cons] using hfirst
  apply String.toList_injective
  cases vs with
  | nil => rfl
  | cons v vs =>
    rw [print, write, hitems]
    simp [String.toList_intercalate, print, Function.comp_def]

end Json

/-! ## What is read back of an object -/

namespace ObjectItem

open Fields

variable {o other : ObjectItem} {d : Nat}

/-- Whether the numbers of the vector have a value. -/
def HasFiniteVector (o : ObjectItem) : Prop :=
  ∀ xs, o.vector = some xs → ∀ x ∈ xs, (Json.Number.single x).isFinite

/-- An object lasts if the binary numbers of its properties do, and those of its vector are
finite. -/
structure Lasts (o : ObjectItem) : Prop where
  properties : ∀ x, .double x ∈ Json.membersNumbers o.properties → (Json.Number.double x).Lasts
  vector : o.HasFiniteVector

/-- The document of the numbers of a vector. -/
def vectorJson (xs : List Binary) : Json :=
  .array (xs.map fun x => .number (.single x))

/-- The properties that are read back where `d` arrays and objects enclose them. -/
def propertiesAt (o : ObjectItem) (d : Nat) : Option (List (String × Json)) :=
  (Decoder.members .json ((Json.object o.properties).readAt d)).toOption

/-- The vector that is. -/
def vectorAt (o : ObjectItem) (d : Nat) : Option (Option (List Binary)) :=
  ((Decoder.list Decoder.single).optional .json
    ((o.vector.map fun xs => (vectorJson xs).readAt d).getD .null)).toOption

/-- All else is read back as it was. -/
lemma decoder_makes (o : ObjectItem) (hd : d < Document.nestingBound) :
    decoder.Makes (o.toJson.readAt d) ((o.propertiesAt (d + 1)).bind fun properties =>
      (o.vectorAt (d + 1)).map fun vector => { o with properties, vector }) := by
  have hnames : ([("id", some (Json.text o.id)), ("class", some (.text o.className)),
      ("properties", some (.object o.properties)), ("tenant", o.tenant.map .text),
      ("vector", o.vector.map vectorJson)].map Prod.fst).Nodup := by simp
  have hid : (required "id" Decoder.text).Make (o.toJson.readAt d) 0 (some o.id) :=
    .of_part (Json.part_readAt hd 0 hnames (.head _)) (Decoder.makes_of_eq rfl)
  have hclass : (required "class" Decoder.text).Make (o.toJson.readAt d) 1 (some o.className) :=
    .of_part (Json.part_readAt hd 1 hnames (.tail _ (.head _))) (Decoder.makes_of_eq rfl)
  have hproperties : (absentAs "properties" [] Decoder.members).Make (o.toJson.readAt d) 2
      (o.propertiesAt (d + 1)) :=
    .of_part (Json.part_readAt hd 2 hnames (.tail _ (.tail _ (.head _)))) Decoder.makes_toOption
  have htenant : (Fields.optional "tenant" Decoder.text).Make (o.toJson.readAt d) 3
      (some o.tenant) := by
    have hmake : (Fields.optional "tenant" Decoder.text).Make (o.toJson.readAt d) 3 _ :=
      .optional (Json.part_readAt hd 3 hnames (.tail _ (.tail _ (.tail _ (.head _)))))
    have htenant : (Decoder.text.optional .json (((o.tenant.map Json.text).map
        fun v => v.readAt (d + 1)).getD .null)).toOption = some o.tenant := by
      cases o.tenant <;> rfl
    rw [htenant] at hmake
    exact hmake
  have hvector : (Fields.optional "vector" (Decoder.list Decoder.single)).Make (o.toJson.readAt d) 4
      (o.vectorAt (d + 1)) := by
    have hmake : (Fields.optional "vector" (Decoder.list Decoder.single)).Make
        (o.toJson.readAt d) 4 _ :=
      .optional (Json.part_readAt hd 4 hnames (.tail _ (.tail _ (.tail _ (.tail _ (.head _))))))
    rw [Option.map_map] at hmake
    exact hmake
  have hrecord := ((((hid.map (f := ObjectItem.mk)).seq hclass).seq hproperties).seq htenant).seq
    hvector
  have hmakes := hrecord.record (Json.isRecord_readAt hd 5 _) "ObjectRecord"
  cases hp : o.propertiesAt (d + 1) <;> cases hv : o.vectorAt (d + 1) <;> rw [hp, hv] at hmakes <;>
    exact hmakes

/-- The properties are read back if they last. -/
lemma propertiesAt_eq_iff (hd : d ≤ Document.nestingBound)
    (hcanonical : (Json.object o.properties).isCanonical) :
    o.propertiesAt d = some o.properties ↔
      (∀ n ∈ Json.membersNumbers o.properties, n.Lasts) ∧
        d + (Json.object o.properties).depth ≤ Document.nestingBound := by
  rw [propertiesAt, ← Decoder.makes_toOption o.properties, Decoder.members_eq_ok_iff]
  exact Json.toJson?_readAt_iff hd hcanonical

lemma vectorJson_readAt (hd : d < Document.nestingBound) (xs : List Binary) :
    (vectorJson xs).readAt d = .sequence (xs.map fun x => (Json.Number.single x).reading) := by
  rw [vectorJson, Json.readAt, Json.nested_of_lt hd, Json.itemsReadAt_eq_map, List.map_map]
  rfl

/-- The numbers of a vector are read back one by one, if they are finite. -/
lemma list_vectorJson_iff (hd : d < Document.nestingBound) {xs ys : List Binary}
    (hxs : ∀ x ∈ xs, Json.IsSingle x) :
    Decoder.list Decoder.single .json ((vectorJson xs).readAt d) = .ok ys ↔
      ys = xs ∧ ∀ x ∈ xs, (Json.Number.single x).isFinite := by
  have hread : ∀ (xs ys : List Binary), (∀ x ∈ xs, Json.IsSingle x) →
      (List.Forall₂ (fun x y => Decoder.single .json (Json.Number.single x).reading = .ok y) xs ys ↔
        ys = xs ∧ ∀ x ∈ xs, (Json.Number.single x).isFinite) := by
    intro xs
    induction xs with
    | nil => simp
    | cons x xs ih =>
      intro ys hxs
      obtain ⟨hx, hxs⟩ := List.forall_mem_cons.mp hxs
      rw [List.forall₂_cons_left_iff]
      simp only [Json.single_reading_iff hx, ih _ hxs, List.forall_mem_cons]
      constructor
      · rintro ⟨y, ys, ⟨rfl, hfinite⟩, ⟨rfl, hall⟩, rfl⟩
        exact ⟨rfl, hfinite, hall⟩
      · rintro ⟨rfl, hfinite, hall⟩
        exact ⟨x, xs, ⟨rfl, hfinite⟩, ⟨rfl, hall⟩, rfl⟩
  rw [vectorJson_readAt hd, Decoder.list_eq_ok_iff fun _ _ => Iff.rfl]
  simp only [Document.sequence.injEq, exists_eq_left', List.forall₂_map_left_iff]
  exact hread xs ys hxs

/-- The vector is read back as it was, if it is. -/
lemma vectorAt_eq_iff (hd : d < Document.nestingBound) {vector : Option (List Binary)}
    (hsingles : ∀ xs, o.vector = some xs → ∀ x ∈ xs, Json.IsSingle x) :
    o.vectorAt d = some vector ↔ vector = o.vector ∧ o.HasFiniteVector := by
  rw [vectorAt, ← Decoder.makes_toOption vector, optional_eq_ok_iff, HasFiniteVector]
  cases hvector : o.vector with
  | none => simp
  | some xs =>
    have hpart : (vectorJson xs).readAt d ≠ .null := by
      rw [vectorJson_readAt hd]
      nofun
    simp only [Option.map_some, Option.getD_some, hpart, false_and, false_or, ne_eq,
      not_false_eq_true, true_and, list_vectorJson_iff hd (hsingles xs hvector),
      Option.some.injEq, forall_eq']
    constructor
    · rintro ⟨ys, ⟨rfl, hfinite⟩, rfl⟩
      exact ⟨rfl, hfinite⟩
    · rintro ⟨rfl, hfinite⟩
      exact ⟨xs, ⟨rfl, hfinite⟩, rfl⟩

/-! ## Accepted objects -/

/-- What an accepted object may hold: its properties are canonical, not nested too deeply, and
their numbers are those of literals. The numbers of its vector are those of the 32-bit format. -/
structure IsAccepted (o : ObjectItem) : Prop where
  canonical : (Json.object o.properties).isCanonical
  depth_le : (Json.object o.properties).depth + 1 ≤ Document.nestingBound
  numbers : ∀ n ∈ Json.membersNumbers o.properties, ∃ l : Json.Literal, l.value? = some n
  singles : ∀ xs, o.vector = some xs → ∀ x ∈ xs, Json.IsSingle x

end ObjectItem

namespace Document

/-- A part of a legal record is legal one level further down. -/
lemma isLegal_part {doc part : Document} {d index : Nat} {name : String} (h : doc.IsLegal d)
    (hpart : doc.Part index name (some part)) : part.IsLegal (d + 1) := by
  cases doc with
  | mapping members =>
    have hpart : (members.filter (·.1 = some name)).map Prod.snd = [part] := hpart
    have hmem : part ∈ (members.filter (·.1 = some name)).map Prod.snd := by
      rw [hpart]
      exact List.mem_singleton_self part
    obtain ⟨m, hm, rfl⟩ := List.mem_map.mp hmem
    exact membersAreLegal_iff.mp h.2 m (List.mem_filter.mp hm).1
  | sequence items => exact areLegal_iff.mp h.2 part (List.mem_of_getElem? hpart)
  | null | bool | number | text | flawed => cases hpart

end Document

namespace ObjectItem

open Fields

lemma isSingle_of_decodeList {doc : Document} {xs : List Binary}
    (h : Decoder.list Decoder.single .json doc = .ok xs) : ∀ x ∈ xs, Json.IsSingle x := by
  obtain ⟨docs, -, hread⟩ := (Decoder.list_eq_ok_iff fun _ _ => Iff.rfl).mp h
  clear h
  induction hread with
  | nil => nofun
  | cons hx _ ih => exact List.forall_mem_cons.mpr ⟨Json.isSingle_of_decode hx, ih⟩

lemma isAccepted_of_decodeText {o : ObjectItem} {text : String}
    (h : Decoder.decodeText decoder text = .ok o) : o.IsAccepted := by
  obtain ⟨doc, hread, hdecode⟩ := Decoder.decodeText_eq_ok_iff.mp h
  have hlegal := Document.isLegal_of_read? hread
  obtain ⟨-, hfields⟩ := record_eq_ok_iff.mp hdecode
  simp only [read_seq_iff, read_map_iff, read_absentAs_iff, read_optional_iff] at hfields
  obtain ⟨-, vector, ⟨-, tenant, ⟨-, properties, ⟨-, className, ⟨id, -, rfl⟩, -, rfl⟩, hproperties,
    rfl⟩, -, rfl⟩, hvector, rfl⟩ := hfields
  have hsingles : ∀ xs, vector = some xs → ∀ x ∈ xs, Json.IsSingle x := by
    intro xs hxs
    rcases hvector with ⟨-, hnone⟩ | ⟨part, ys, -, -, hlist, hsome⟩
    · cases hnone.symm.trans hxs
    · obtain rfl := Option.some.inj (hsome.symm.trans hxs)
      exact isSingle_of_decodeList hlist
  rcases hproperties with ⟨-, rfl⟩ | ⟨part, hpart, hmembers⟩
  · have hdepth : (Json.object []).depth + 1 ≤ Document.nestingBound := by decide
    exact ⟨rfl, hdepth, nofun, hsingles⟩
  · have hvalue := Decoder.members_eq_ok_iff.mp hmembers
    obtain ⟨hdepth, hnumbers⟩ := Document.legal_toJson? (Document.isLegal_part hlegal hpart) hvalue
    have hnested : (Json.object properties).depth ≠ 0 := Nat.succ_ne_zero _
    have hdepth : (Json.object properties).depth + 1 ≤ Document.nestingBound := by omega
    exact ⟨Json.isCanonical_of_toJson? hvalue, hdepth, hnumbers, hsingles⟩

/-- The whole numbers of an accepted object last. -/
lemma IsAccepted.lasts_iff {o : ObjectItem} (h : o.IsAccepted) :
    (∀ n ∈ Json.membersNumbers o.properties, n.Lasts) ↔
      ∀ x, .double x ∈ Json.membersNumbers o.properties → (Json.Number.double x).Lasts := by
  constructor
  · exact fun hlasts x => hlasts (.double x)
  · intro hlasts n hmem
    obtain ⟨l, hl⟩ := h.numbers n hmem
    rcases Json.Number.lasts_or_double hl with hn | ⟨x, rfl⟩
    · exact hn
    · exact hlasts x hmem

/-! ## Objects in the place of their documents -/

variable {o : ObjectItem} {d : Nat}

/-- Of the members of an object only the properties may be nested. -/
lemma depth_toJson (o : ObjectItem) : o.toJson.depth = (Json.object o.properties).depth + 1 := by
  have hnumbers (xs : List Binary) :
      Json.itemsDepth (xs.map fun x => .number (.single x)) = 0 := by
    rw [← Nat.le_zero, Json.itemsDepth_le_iff]
    intro v hmem
    obtain ⟨x, -, rfl⟩ := List.mem_map.mp hmem
    exact Nat.le_refl 0
  unfold toJson Json.present
  cases o.tenant <;> cases o.vector <;> simp [Json.depth, Json.membersDepth, hnumbers]

/-- How an object is read back from the document that stands for it. -/
structure CarriedBy (o : ObjectItem) (element : Document) : Prop where
  /-- The same object comes back just when it lasts and is not nested too deeply. -/
  same_iff : decoder .json element = .ok o ↔
    o.Lasts ∧ o.toJson.depth + 2 ≤ Document.nestingBound
  /-- Whatever comes back is an object of the same identifier, class, tenant and vector. -/
  kept : ∀ other, decoder .json element = .ok other → other.id = o.id ∧
    other.className = o.className ∧ other.tenant = o.tenant ∧ other.vector = o.vector
  /-- Nothing comes back if a number in the vector is not finite. -/
  refused : ¬o.HasFiniteVector → ∃ cause, decoder .json element = .error cause

lemma decoder_eq_ok_iff (hd : d < Document.nestingBound) {other : ObjectItem} :
    decoder .json (o.toJson.readAt d) = .ok other ↔
      o.propertiesAt (d + 1) = some other.properties ∧ o.vectorAt (d + 1) = some other.vector ∧
        other.id = o.id ∧ other.className = o.className ∧ other.tenant = o.tenant := by
  rw [o.decoder_makes hd other]
  simp only [Option.bind_eq_some_iff, Option.map_eq_some_iff]
  constructor
  · rintro ⟨properties, hproperties, vector, hvector, rfl⟩
    exact ⟨hproperties, hvector, rfl, rfl, rfl⟩
  · rintro ⟨hproperties, hvector, hid, hclass, htenant⟩
    refine ⟨_, hproperties, _, hvector, ?_⟩
    cases other
    simp_all

/-- An accepted object is read back where it is written, if it lasts. -/
lemma IsAccepted.decoder_eq_ok_iff {o : ObjectItem} (h : o.IsAccepted)
    (hd : d + 1 < Document.nestingBound) :
    decoder .json (o.toJson.readAt d) = .ok o ↔
      o.Lasts ∧ o.toJson.depth + d ≤ Document.nestingBound := by
  rw [ObjectItem.decoder_eq_ok_iff (by omega), propertiesAt_eq_iff (by omega) h.canonical,
    vectorAt_eq_iff hd h.singles, h.lasts_iff, depth_toJson]
  constructor
  · rintro ⟨⟨hproperties, hdepth⟩, ⟨-, hvector⟩, -⟩
    exact ⟨⟨hproperties, hvector⟩, by omega⟩
  · rintro ⟨⟨hproperties, hvector⟩, hdepth⟩
    exact ⟨⟨hproperties, by omega⟩, ⟨rfl, hvector⟩, rfl, rfl, rfl⟩

lemma IsAccepted.carriedBy {o : ObjectItem} (h : o.IsAccepted) :
    o.CarriedBy (o.toJson.readAt 2) := by
  have hother {other : ObjectItem} (hdecode : decoder .json (o.toJson.readAt 2) = .ok other) :=
    (ObjectItem.decoder_eq_ok_iff (by decide)).mp hdecode
  refine ⟨h.decoder_eq_ok_iff (by decide), fun other hdecode => ?_, fun hinfinite => ?_⟩
  · obtain ⟨-, hvector, hid, hclass, htenant⟩ := hother hdecode
    exact ⟨hid, hclass, htenant, ((vectorAt_eq_iff (by decide) h.singles).mp hvector).1⟩
  · cases hdecode : decoder .json (o.toJson.readAt 2) with
    | error cause => exact ⟨cause, rfl⟩
    | ok other =>
      obtain ⟨-, hvector, -⟩ := hother hdecode
      exact absurd ((vectorAt_eq_iff (by decide) h.singles).mp hvector).2 hinfinite

/-! ## The body -/

/-- The text of the body, in which each object has the text that it has alone. -/
lemma print_message (items : List ObjectItem) : (message items).print =
    "\x7b\"fields\":[\"ALL\"],\"objects\":[" ++
      ",".intercalate (items.map fun o => o.toJson.print) ++ "]\x7d" := by
  have hobjects := Json.print_array (items.map toJson)
  have hlast := Json.write_append (.array (items.map toJson)) [] ['\x7d']
  rw [List.map_map] at hobjects
  have hbody : (message items).print = "\x7b\"fields\":[\"ALL\"],\"objects\":" ++
      (Json.array (items.map toJson)).print ++ "\x7d" := by
    apply String.toList_injective
    simp only [String.toList_append, Json.print, String.toList_ofList, List.append_assoc]
    exact congrArg ("\x7b\"fields\":[\"ALL\"],\"objects\":".toList ++ ·) hlast
  rw [hbody, hobjects]
  apply String.toList_injective
  simp [Function.comp_def]

/-- The document of the body. -/
lemma message_readAt (items : List ObjectItem) : (message items).readAt 0 =
    .mapping [(some "fields", .sequence [.text "ALL"]),
      (some "objects", .sequence (items.map fun o => o.toJson.readAt 2))] := by
  have hobjects : (Json.array (items.map toJson)).readAt 1 =
      .sequence (items.map fun o => o.toJson.readAt 2) := by
    rw [Json.readAt, Json.nested_of_lt (by decide), Json.itemsReadAt_eq_map, List.map_map]
    rfl
  rw [message, Json.readAt, Json.nested_of_lt (by decide), Json.membersReadAt, Json.membersReadAt,
    hobjects]
  rfl

/-- The body for objects, each of them accepted from a text, holds the texts of their documents in
order. It is a document of its own, whose objects are read back as those that were accepted just
when all of them last and none is nested too deeply. -/
theorem message_carries {texts : List String} {items : List ObjectItem}
    (h : List.Forall₂ (fun text o => Decoder.decodeText decoder text = .ok o) texts items) :
    (message items).print = "\x7b\"fields\":[\"ALL\"],\"objects\":[" ++
        ",".intercalate (items.map fun o => o.toJson.print) ++ "]\x7d" ∧
      (∀ o ∈ items, Decoder.decodeText decoder o.toJson.print = .ok o ↔ o.Lasts) ∧
      ∃ elements, Document.read? (message items).print =
          some (.mapping [(some "fields", .sequence [.text "ALL"]),
            (some "objects", .sequence elements)]) ∧
        (Decoder.list decoder .json (.sequence elements) = .ok items ↔
          ∀ o ∈ items, o.Lasts ∧ o.toJson.depth + 2 ≤ Document.nestingBound) ∧
        List.Forall₂ CarriedBy items elements := by
  have haccepted : ∀ o ∈ items, o.IsAccepted := by
    induction h with
    | nil => nofun
    | cons ho _ ih => exact List.forall_mem_cons.mpr ⟨isAccepted_of_decodeText ho, ih⟩
  refine ⟨print_message items, fun o hmem => ?_, items.map fun o => o.toJson.readAt 2, ?_, ?_, ?_⟩
  · have ho := haccepted o hmem
    have hdepth : o.toJson.depth + 0 ≤ Document.nestingBound := by
      rw [depth_toJson]
      exact ho.depth_le
    rw [Decoder.decodeText_eq_ok_iff, Document.read?_print]
    simp only [Option.some.injEq, exists_eq_left', ho.decoder_eq_ok_iff (show 0 + 1 < _ by decide),
      hdepth, and_true]
  · rw [Document.read?_print, message_readAt]
  · rw [Decoder.list_eq_ok_iff fun _ _ => Iff.rfl]
    simp only [Document.sequence.injEq, exists_eq_left', List.forall₂_map_left_iff,
      List.forall₂_same]
    exact forall₂_congr fun o hmem => (haccepted o hmem).decoder_eq_ok_iff (by decide)
  · rw [List.forall₂_map_right_iff, List.forall₂_same]
    exact fun o hmem => (haccepted o hmem).carriedBy

/-! ## One number in a vector -/

/-- An object with a vector of one number. -/
def ofComponent (x : Binary) : ObjectItem :=
  ⟨"o", "C", [("n", .whole 1)], none, some [x]⟩

/-- A document of such an object. -/
def documentOf (x : Binary) : Json :=
  .object [("id", .text "o"), ("class", .text "C"), ("properties", .object [("n", .whole 1)]),
    ("vector", .array [.number (.double x)])]

/-- Its text, around the digits of the number. -/
def textOf (digits : String) : String :=
  "\x7b\"id\":\"o\",\"class\":\"C\",\"properties\":\x7b\"n\":1\x7d,\"vector\":[" ++
    digits ++ "]\x7d"

lemma decodeText_textOf {digits : String} {x y : Binary}
    (htext : textOf digits = (documentOf x).print)
    (hdecode : decoder .json ((documentOf x).readAt 0) = .ok (ofComponent y)) :
    Decoder.decodeText decoder (textOf digits) = .ok (ofComponent y) := by
  rw [htext, Decoder.decodeText_eq_ok_iff]
  exact ⟨_, Document.read?_print _, hdecode⟩

/-- The number that comes back. -/
def half : Binary := .finite false 0x800000 (-24)

/-- A number that the 32-bit format has comes back. -/
theorem message_carries_half :
    Decoder.decodeText decoder (textOf "0.5") = .ok (ofComponent half) ∧
    ∃ elements, Document.read? (message [ofComponent half]).print =
        some (.mapping [(some "fields", .sequence [.text "ALL"]),
          (some "objects", .sequence elements)]) ∧
      Decoder.list decoder .json (.sequence elements) = .ok [ofComponent half] := by
  have htext : textOf "0.5" = (documentOf (.finite false 0x10000000000000 (-53))).print := by decide
  have haccepted := decodeText_textOf (y := half) htext rfl
  have hlasts : (ofComponent half).Lasts := by
    refine ⟨fun x hmem => ?_, fun xs hxs x hmem => ?_⟩
    · cases List.mem_singleton.mp hmem
    · obtain rfl := Option.some.inj hxs
      rw [List.mem_singleton.mp hmem]
      rfl
  obtain ⟨-, -, elements, hread, hsame, -⟩ := message_carries (.cons haccepted .nil)
  refine ⟨haccepted, elements, hread, hsame.mpr ?_⟩
  rw [List.forall_mem_singleton]
  exact ⟨hlasts, by decide⟩

/-- A number beyond the 32-bit format is accepted and does not come back, neither from the body nor
from the text of its object. -/
theorem not_always_carried :
    Decoder.decodeText decoder (textOf "1e+39") = .ok (ofComponent (.infinite false)) ∧
    (¬∃ elements, Document.read? (message [ofComponent (.infinite false)]).print =
        some (.mapping [(some "fields", .sequence [.text "ALL"]),
          (some "objects", .sequence elements)]) ∧
      Decoder.list decoder .json (.sequence elements) = .ok [ofComponent (.infinite false)]) ∧
    ∃ cause, Decoder.decodeText decoder (ofComponent (.infinite false)).toJson.print =
      .error cause := by
  refine ⟨?_, ?_, ?_⟩
  · have htext : textOf "1e+39" = (documentOf (.finite false 6617444900424221 77)).print := by
      decide
    exact decodeText_textOf htext rfl
  · rintro ⟨elements, hread, hsame⟩
    rw [Document.read?_print, message_readAt] at hread
    cases hread
    cases hsame
  · refine ⟨.wrongType .null "f32", ?_⟩
    rw [Decoder.decodeText, Document.read?_print]
    rfl

end ObjectItem

end BulkWrite
