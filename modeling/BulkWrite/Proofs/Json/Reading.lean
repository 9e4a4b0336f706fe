import BulkWrite.Proofs.Json.Literals

/-!
# Reading what was written

The compact text of a value is always a document (`Document.read?_print`), which tells what becomes
of a value on its way through a text (`Json.readAt`): a number becomes the one that its text is read
as, and what is nested too deeply is a flaw. A value of exact numbers that is not nested too deeply
stays what it is (`Document.read?_print_of_isExact`). Writer and reader recurse over the value, so
the proof does: over a value, over the items behind the first one of an array, and over the members
behind the first one of an object.

The reader takes a text from where it stands, so every statement is about a text with more behind
it. What is behind a number must not go on with it (`Ends`).
-/

namespace BulkWrite.Json

/-! ## Texts -/

/-- A control below the space is the value of the last two digits of its escape. -/
lemma hexWord?_hexDigit {n : Nat} (h : n < 0x20) :
    hexWord? '0' '0' (hexDigit (n / 16)) (hexDigit (n % 16)) = some n := by
  revert n
  decide

lemma readChars_numberedEscape {n : Nat} (h : n < 0x20) (cs : List Char) :
    readChars (numberedEscape n ++ cs) = TextRead.prepend (Char.ofNat n) (readChars cs) := by
  have hlow : isLowHalf n = false := by
    unfold isLowHalf
    simp
    omega
  have hhigh : isHighHalf n = false := by
    unfold isHighHalf
    simp
    omega
  show readChars ('\\' :: 'u' :: '0' :: '0' :: hexDigit (n / 16) :: hexDigit (n % 16) :: cs) = _
  rw [readChars, hexWord?_hexDigit h]
  simp [hlow, hhigh]

/-- A character that needs no escape stands for itself. -/
lemma readChars_plain {c : Char} (hquote : c ≠ '"') (hslash : c ≠ '\\') (hc : ¬c.toNat < 0x20)
    (cs : List Char) : readChars (c :: cs) = TextRead.prepend c (readChars cs) := by
  rw [readChars, if_neg hc]
  all_goals intros; contradiction

/-- A character is read as it was escaped. -/
lemma readChars_escape (c : Char) (cs : List Char) :
    readChars (escape c ++ cs) = TextRead.prepend c (readChars cs) := by
  unfold escape
  split
  · simp [readChars, unescape?]
  · simp [readChars, unescape?]
  · simp [readChars, unescape?]
  · simp [readChars, unescape?]
  · simp [readChars, unescape?]
  · simp [readChars, unescape?]
  · simp [readChars, unescape?]
  · rename_i hquote hslash _ _ _ _ _
    split
    · rename_i hc
      rw [readChars_numberedEscape hc, Char.ofNat_toNat]
    · rename_i hc
      exact readChars_plain hquote hslash hc cs

lemma readChars_writeChars (cs rest : List Char) :
    readChars (writeChars cs rest) = some (some cs, rest) := by
  induction cs with
  | nil => simp [writeChars, readChars]
  | cons c cs ih =>
    rw [writeChars, readChars_escape, ih]
    rfl

/-- A text is read as it was written. -/
lemma readText_writeChars (s : String) (rest : List Char) :
    readText (writeChars s.toList rest) = some (some s, rest) := by
  rw [readText, readChars_writeChars]
  simp

/-! ## What becomes of a value -/

mutual

/-- The document that the text of a value is read as where `d` arrays and objects enclose it. -/
def readAt : Json → Nat → Document
  | .null, _ => .null
  | .bool b, _ => .bool b
  | .number n, _ => n.reading
  | .text s, _ => .text s
  | .array items, d => nested d (.sequence (itemsReadAt items (d + 1)))
  | .object members, d => nested d (.mapping (membersReadAt members (d + 1)))

/-- The documents that the texts of items are read as. -/
def itemsReadAt : List Json → Nat → List Document
  | [], _ => []
  | v :: vs, d => v.readAt d :: itemsReadAt vs d

/-- The documents that the texts of members are read as. -/
def membersReadAt : List (String × Json) → Nat → List (Option String × Document)
  | [], _ => []
  | (name, v) :: ms, d => (some name, v.readAt d) :: membersReadAt ms d

end

lemma itemsReadAt_eq_map (vs : List Json) (d : Nat) :
    itemsReadAt vs d = vs.map fun v => v.readAt d := by
  induction vs with
  | nil => rfl
  | cons v vs ih => rw [itemsReadAt, ih, List.map_cons]

lemma membersReadAt_eq_map (ms : List (String × Json)) (d : Nat) :
    membersReadAt ms d = ms.map fun m => (some m.1, m.2.readAt d) := by
  induction ms with
  | nil => rfl
  | cons m ms ih => rw [membersReadAt, ih, List.map_cons]

lemma nested_of_lt {d : Nat} (hd : d < Document.nestingBound) (doc : Document) :
    nested d doc = doc := by
  rw [nested, if_pos hd]

mutual

/-- A value of exact numbers that is not nested too deeply stays what it is. -/
lemma readAt_of_isExact : ∀ (v : Json) (d : Nat), v.isExact →
    d + v.depth ≤ Document.nestingBound → v.readAt d = v.toDocument
  | .null, _, _, _ | .bool _, _, _, _ | .text _, _, _, _ => rfl
  | .number n, _, hexact, _ => reading_of_isExact hexact
  | .array items, d, hexact, hdepth => by
    rw [isExact] at hexact
    rw [depth] at hdepth
    rw [readAt, toDocument, itemsReadAt_of_isExact items (d + 1) hexact (by omega),
      nested_of_lt (by omega)]
  | .object members, d, hexact, hdepth => by
    rw [isExact] at hexact
    rw [depth] at hdepth
    rw [readAt, toDocument, membersReadAt_of_isExact members (d + 1) hexact (by omega),
      nested_of_lt (by omega)]

lemma itemsReadAt_of_isExact : ∀ (vs : List Json) (d : Nat), areExact vs →
    d + itemsDepth vs ≤ Document.nestingBound → itemsReadAt vs d = itemsToDocument vs
  | [], _, _, _ => rfl
  | v :: vs, d, hexact, hdepth => by
    rw [areExact, Bool.and_eq_true] at hexact
    rw [itemsDepth] at hdepth
    rw [itemsReadAt, itemsToDocument, readAt_of_isExact v d hexact.1 (by omega),
      itemsReadAt_of_isExact vs d hexact.2 (by omega)]

lemma membersReadAt_of_isExact : ∀ (ms : List (String × Json)) (d : Nat), membersAreExact ms →
    d + membersDepth ms ≤ Document.nestingBound → membersReadAt ms d = membersToDocument ms
  | [], _, _, _ => rfl
  | (name, v) :: ms, d, hexact, hdepth => by
    rw [membersAreExact, Bool.and_eq_true] at hexact
    rw [membersDepth] at hdepth
    rw [membersReadAt, membersToDocument, readAt_of_isExact v d hexact.1 (by omega),
      membersReadAt_of_isExact ms d hexact.2 (by omega)]

end

/-! ## Values -/

lemma skipSpace_cons {c : Char} (hc : isSpace c = false) (cs : List Char) :
    skipSpace (c :: cs) = c :: cs := by
  rw [skipSpace, List.dropWhile_cons, hc]
  rfl

/-- A sign or a digit starts a number. -/
lemma readValue_number {c : Char} (hc : c = '-' ∨ c.isDigit) (fuel d : Nat) (cs : List Char) :
    readValue (fuel + 1) d (c :: cs) = readNumber (c :: cs) := by
  rw [readValue, skipSpace_cons (isSpace_of_starts hc)]
  split
  case h_7 => rfl
  -- the other values start with characters of their own
  all_goals
    rename_i heq
    exact absurd (List.cons.inj heq).1 (ne_of_starts hc (by decide))

lemma length_le_writeText (s : String) (rest : List Char) :
    rest.length ≤ (writeText s rest).length := by
  have hchars (cs : List Char) : rest.length ≤ (writeChars cs rest).length := by
    induction cs with
    | nil => simp [writeChars]
    | cons c cs ih =>
      rw [writeChars, List.length_append]
      omega
  rw [writeText, List.length_cons]
  exact Nat.le_succ_of_le (hchars s.toList)

mutual

/-- A value is written in front of what is behind it. -/
lemma length_le_write : ∀ (v : Json) (rest : List Char), rest.length ≤ (write v rest).length
  | .null, rest | .bool true, rest | .bool false, rest | .array [], rest | .object [], rest => by
    simp only [write, List.length_cons]
    omega
  | .number n, rest => by
    rw [write, List.length_append]
    omega
  | .text s, rest => length_le_writeText s rest
  | .array (v :: vs), rest => by
    have hvalue := length_le_write v (writeItems vs rest)
    have hitems := length_le_writeItems vs rest
    rw [write, List.length_cons]
    omega
  | .object ((name, v) :: ms), rest => by
    have hname := length_le_writeText name (':' :: write v (writeMembers ms rest))
    have hvalue := length_le_write v (writeMembers ms rest)
    have hmembers := length_le_writeMembers ms rest
    rw [List.length_cons] at hname
    rw [write, List.length_cons]
    omega

lemma length_le_writeItems : ∀ (vs : List Json) (rest : List Char),
    rest.length ≤ (writeItems vs rest).length
  | [], rest => by simp [writeItems]
  | v :: vs, rest => by
    have hvalue := length_le_write v (writeItems vs rest)
    have hitems := length_le_writeItems vs rest
    rw [writeItems, List.length_cons]
    omega

lemma length_le_writeMembers : ∀ (ms : List (String × Json)) (rest : List Char),
    rest.length ≤ (writeMembers ms rest).length
  | [], rest => by simp [writeMembers]
  | (name, v) :: ms, rest => by
    have hname := length_le_writeText name (':' :: write v (writeMembers ms rest))
    have hvalue := length_le_write v (writeMembers ms rest)
    have hmembers := length_le_writeMembers ms rest
    rw [List.length_cons] at hname
    rw [writeMembers, List.length_cons]
    omega

end

/-- What a value starts with is neither a space nor the end of an array. -/
lemma exists_write (v : Json) (rest : List Char) :
    ∃ c cs, write v rest = c :: cs ∧ isSpace c = false ∧ c ≠ ']' := by
  cases v with
  | number n =>
    cases hfinite : n.isFinite with
    | true =>
      obtain ⟨c, cs, htext, hc⟩ := exists_text hfinite
      refine ⟨c, cs ++ rest, ?_, isSpace_of_starts hc, ne_of_starts hc (by decide)⟩
      rw [write, htext, List.cons_append]
    | false =>
      rw [write, text_of_not_finite hfinite]
      exact ⟨_, _, rfl, rfl, by decide⟩
  | null => exact ⟨_, _, rfl, rfl, by decide⟩
  | bool b => cases b <;> exact ⟨_, _, rfl, rfl, by decide⟩
  | text s => exact ⟨_, _, rfl, rfl, by decide⟩
  | array items => cases items <;> exact ⟨_, _, rfl, rfl, by decide⟩
  | object members => cases members <;> exact ⟨_, _, rfl, rfl, by decide⟩

lemma ends_writeItems (vs : List Json) (rest : List Char) : Ends (writeItems vs rest) := by
  cases vs with
  | nil => exact ends_cons (.inr (.inl rfl)) _
  | cons v vs => exact ends_cons (.inl rfl) _

lemma ends_writeMembers (ms : List (String × Json)) (rest : List Char) :
    Ends (writeMembers ms rest) := by
  cases ms with
  | nil => exact ends_cons (.inr (.inr rfl)) _
  | cons m ms => exact ends_cons (.inl rfl) _

mutual

/-- The text of a value is read to its end, by a reader with fuel for two units per character. -/
lemma readValue_write : ∀ (v : Json) (fuel d : Nat) (rest : List Char), Ends rest →
    2 * (write v rest).length < fuel → readValue fuel d (write v rest) = some (v.readAt d, rest)
  | _, 0, _, _, _, hfuel => by omega
  | .null, fuel + 1, d, rest, _, _ => by
    rw [write, readValue, skipSpace_cons (by decide)]
    rfl
  | .bool true, fuel + 1, d, rest, _, _ | .bool false, fuel + 1, d, rest, _, _ => by
    rw [write, readValue, skipSpace_cons (by decide)]
    rfl
  | .number n, fuel + 1, d, rest, hends, _ => by
    cases hfinite : n.isFinite with
    | true =>
      obtain ⟨c, cs, htext, hc⟩ := exists_text hfinite
      rw [write, htext, List.cons_append, readValue_number hc, ← List.cons_append, ← htext]
      exact readNumber_text hfinite hends
    | false =>
      -- a number that is not finite is written as null
      rw [write, text_of_not_finite hfinite, readAt, reading_of_not_finite hfinite]
      show readValue (fuel + 1) d ('n' :: 'u' :: 'l' :: 'l' :: rest) = _
      rw [readValue, skipSpace_cons (by decide)]
      rfl
  | .text s, fuel + 1, d, rest, _, _ => by
    rw [write, writeText, readValue, skipSpace_cons (by decide)]
    simp only [readText_writeChars]
    rfl
  | .array [], fuel + 1, d, rest, _, _ => by
    rw [write, readValue, skipSpace_cons (by decide)]
    simp only [skipSpace_cons (show isSpace ']' = false from rfl)]
    rfl
  | .array (v :: vs), fuel + 1, d, rest, hends, hfuel => by
    rw [write, List.length_cons] at hfuel
    have hitems := readItems_write v vs fuel (d + 1) rest (by omega)
    obtain ⟨c, cs, hstart, hspace, hend⟩ := exists_write v (writeItems vs rest)
    rw [write, readValue, skipSpace_cons (by decide)]
    -- the first item does not look like the end of the array
    rw [hstart] at hitems ⊢
    simp only [skipSpace_cons hspace]
    split
    · rename_i heq
      exact absurd (List.cons.inj heq).1 hend
    · rw [hitems]
      rfl
  | .object [], fuel + 1, d, rest, _, _ => by
    rw [write, readValue, skipSpace_cons (by decide)]
    simp only [skipSpace_cons (show isSpace '\x7d' = false from rfl)]
    rfl
  | .object ((name, v) :: ms), fuel + 1, d, rest, hends, hfuel => by
    rw [write, List.length_cons] at hfuel
    have hmembers := readMembers_write name v ms fuel (d + 1) rest (by omega)
    rw [write, readValue, skipSpace_cons (by decide)]
    -- a name starts with a quotation mark, so the object does not end here
    simp only [writeText, skipSpace_cons (show isSpace '"' = false from rfl)] at hmembers ⊢
    split
    · rename_i heq
      exact absurd (List.cons.inj heq).1 (by decide)
    · rw [hmembers]
      rfl

/-- So are the items of an array. -/
lemma readItems_write : ∀ (v : Json) (vs : List Json) (fuel d : Nat) (rest : List Char),
    2 * (write v (writeItems vs rest)).length + 1 < fuel →
    readItems fuel d (write v (writeItems vs rest)) = some (itemsReadAt (v :: vs) d, rest)
  | _, _, 0, _, _, hfuel => by omega
  | v, vs, fuel + 1, d, rest, hfuel => by
    have hvalue := readValue_write v fuel d _ (ends_writeItems vs rest) (by omega)
    rw [readItems, hvalue]
    cases vs with
    | nil =>
      simp only [writeItems, skipSpace_cons (show isSpace ']' = false from rfl)]
      rfl
    | cons w ws =>
      -- the comma pays for the fuel that reading one more item takes
      have hlength : (writeItems (w :: ws) rest).length =
          (write w (writeItems ws rest)).length + 1 := rfl
      have hle := length_le_write v (writeItems (w :: ws) rest)
      have hitems := readItems_write w ws fuel d rest (by omega)
      simp only [writeItems, skipSpace_cons (show isSpace ',' = false from rfl), hitems]
      rfl

/-- And so are the members of an object. -/
lemma readMembers_write : ∀ (name : String) (v : Json) (ms : List (String × Json)) (fuel d : Nat)
    (rest : List Char),
    2 * (writeText name (':' :: write v (writeMembers ms rest))).length + 1 < fuel →
    readMembers fuel d (writeText name (':' :: write v (writeMembers ms rest))) =
      some (membersReadAt ((name, v) :: ms) d, rest)
  | _, _, _, 0, _, _, hfuel => by omega
  | name, v, ms, fuel + 1, d, rest, hfuel => by
    have hname := length_le_writeText name (':' :: write v (writeMembers ms rest))
    rw [List.length_cons] at hname
    have hvalue := readValue_write v fuel d _ (ends_writeMembers ms rest) (by omega)
    rw [readMembers, writeText, skipSpace_cons (by decide)]
    simp only [readText_writeChars, skipSpace_cons (show isSpace ':' = false from rfl), hvalue]
    cases ms with
    | nil =>
      simp only [writeMembers, skipSpace_cons (show isSpace '\x7d' = false from rfl)]
      rfl
    | cons m ms =>
      obtain ⟨other, w⟩ := m
      have hlength : (writeMembers ((other, w) :: ms) rest).length =
          (writeText other (':' :: write w (writeMembers ms rest))).length + 1 := rfl
      have hle := length_le_write v (writeMembers ((other, w) :: ms) rest)
      have hmembers := readMembers_write other w ms fuel d rest (by omega)
      simp only [writeMembers, skipSpace_cons (show isSpace ',' = false from rfl), hmembers]
      rfl

end

end BulkWrite.Json

namespace BulkWrite.Document

/-- The text of a value is a document. -/
theorem read?_print (v : Json) : read? v.print = some (v.readAt 0) := by
  have hvalue := Json.readValue_write v (Json.readerFuel (Json.write v [])) 0 [] Json.ends_nil
    (by unfold Json.readerFuel; omega)
  unfold read? Json.print
  simp only [String.toList_ofList, hvalue]
  rfl

/-- The text of a value of exact numbers is read as that value. -/
theorem read?_print_of_isExact {v : Json} (hexact : v.isExact) (hdepth : v.depth ≤ nestingBound) :
    read? v.print = some v.toDocument := by
  rw [read?_print, Json.readAt_of_isExact v 0 hexact (by omega)]

end BulkWrite.Document
