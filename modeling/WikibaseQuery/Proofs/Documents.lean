import WikibaseQuery.Json.Printer
import WikibaseQuery.Json.Reader
import WikibaseQuery.Proofs.Numerals

/-!
# JSON text reads back

Printing a value and reading the text gives the document of the value, and nothing is left over.
A document still has numerals for numbers, so that this holds for every value; taking the document
gives the value where its numbers read back and it is nested no deeper than there is room.

* `textDocument_escaped` — a quoted text is read back, whatever characters it has;
* `Document.read_print` — the text of a value is read as its document;
* `Document.take_document` — the document of a value is taken as that value.
-/

namespace WikibaseQuery

/-! ## Quoted texts -/

/-- The piece that a character of a quoted text is read as: a numbered escape where it is a control
without a letter of its own. -/
def Piece.of (c : Char) : Piece :=
  if c.toNat < 32 ∧ c ∉ ['\x08', '\x0c', '\n', '\r', '\t'] then .unit c.toNat else .char c

/-- A control is read from its two hexadecimal digits. -/
theorem hexQuad?_control {n : Nat} (h : n < 32) :
    hexQuad? '0' '0' (Nat.digitChar (n / 16)) (Nat.digitChar (n % 16)) = some n := by
  revert n
  decide

/-- A character that is not escaped is read as it stands. -/
theorem readPieces_plain {c : Char} (hquote : c ≠ '"') (hslash : c ≠ '\\')
    (hcontrol : ¬ c.toNat < 32) (cs : List Char) :
    readPieces (c :: cs) = (.char c :: (readPieces cs).1, (readPieces cs).2) := by
  rw [readPieces, if_neg hcontrol]
  · exact hquote
  · exact fun h _ => hslash h
  · exact fun _ _ _ _ _ h _ => hslash h
  · exact fun _ _ h _ => hslash h

/-- A character is read back from its escape. -/
theorem readPieces_escapedChar (c : Char) (cs : List Char) :
    readPieces (Json.escapedChar c ++ cs) =
      (Piece.of c :: (readPieces cs).1, (readPieces cs).2) := by
  unfold Json.escapedChar
  split
  iterate 7 rfl
  rename_i hquote hslash _ _ _ _ _
  split_ifs with hcontrol
  · have hpiece : Piece.of c = .unit c.toNat := if_pos ⟨hcontrol, by simp_all⟩
    rw [hpiece]
    simp only [List.cons_append, List.nil_append, readPieces, hexQuad?_control hcontrol]
  · have hpiece : Piece.of c = .char c := if_neg fun h => hcontrol h.1
    rw [hpiece, List.singleton_append, readPieces_plain hquote hslash hcontrol]

theorem readPieces_escaped (cs rest : List Char) :
    readPieces (cs.flatMap Json.escapedChar ++ '"' :: rest) = (cs.map Piece.of, .ok rest) := by
  induction cs with
  | nil => rfl
  | cons c cs ih =>
    rw [List.flatMap_cons, List.append_assoc, readPieces_escapedChar, ih, List.map_cons]

/-- The pieces of a text are put together to that text. -/
theorem charsOfPieces_of (cs : List Char) : charsOfPieces none (cs.map Piece.of) = .ok cs := by
  induction cs with
  | nil => rfl
  | cons c cs ih =>
    rw [List.map_cons, Piece.of]
    split_ifs with hcontrol
    · have htrailing : isTrailingHalf c.toNat = false := by
        simp [isTrailingHalf]
        omega
      have hleading : isLeadingHalf c.toNat = false := by
        simp [isLeadingHalf]
        omega
      rw [charsOfPieces.eq_def]
      simp only [htrailing, hleading, Bool.false_eq_true, if_false, ih, Char.ofNat_toNat]
      rfl
    · rw [charsOfPieces, ih]
      rfl

/-- **A quoted text is read back**, whatever characters it has. -/
theorem textDocument_escaped (s : String) (rest : List Char) :
    textDocument (s.toList.flatMap Json.escapedChar ++ '"' :: rest) = .ok (.ok s, rest) := by
  simp only [textDocument, readPieces_escaped, textOfPieces, charsOfPieces_of, Except.map_ok,
    String.ofList_toList]

/-! ## The document of a value -/

namespace Json

mutual

/-- What the text of a value is read as. -/
def document : Json → Document
  | .null => .null
  | .bool b => .bool b
  | .number n => .number n.numeral
  | .text s => .text (.ok s)
  | .array items => .array (documentItems items)
  | .object members => .object (documentMembers members)

def documentItems : List Json → Items
  | [] => .closed
  | item :: items => .item item.document (documentItems items)

def documentMembers : List (String × Json) → Members
  | [] => .closed
  | (name, value) :: members => .member (.ok name) value.document (documentMembers members)

end

/-! ### First characters -/

/-- A value can begin with the character: it is no blank and closes no array. -/
def Begins (c : Char) : Prop := isJsonBlank c = false ∧ c ≠ ']'

/-- A number begins with its sign or a digit. -/
theorem numberText_eq_cons (n : Number) :
    ∃ c cs, numberText n = c :: cs ∧ (c = '-' ∨ c.isDigit = true) := by
  have hspelled := n.wellSpelled_numeral
  obtain ⟨c, cs, hwhole⟩ := List.exists_cons_of_ne_nil hspelled.whole_ne_nil
  rw [← n.text_numeral, Numeral.text, hwhole]
  cases n.numeral.negative with
  | true => exact ⟨'-', _, rfl, .inl rfl⟩
  | false => exact ⟨c, _, rfl, .inr (hspelled.whole_digits c (by simp [hwhole]))⟩

theorem ne_of_number {c d : Char} (h : c = '-' ∨ c.isDigit = true)
    (hd : d ≠ '-' ∧ d.isDigit = false) : c ≠ d := by
  rintro rfl
  simp_all

theorem begins_of_number {c : Char} (h : c = '-' ∨ c.isDigit = true) : Begins c := by
  have hspace : c ≠ ' ' := ne_of_number h (by decide)
  have hfeed : c ≠ '\n' := ne_of_number h (by decide)
  have htab : c ≠ '\t' := ne_of_number h (by decide)
  have hreturn : c ≠ '\r' := ne_of_number h (by decide)
  exact ⟨by simp [isJsonBlank, hspace, hfeed, htab, hreturn], ne_of_number h (by decide)⟩

/-- The text of a value is not empty, and begins with no blank and no closing bracket. -/
theorem print_eq_cons (j : Json) : ∃ c cs, j.print = c :: cs ∧ Begins c := by
  match j with
  | .null => exact ⟨'n', _, rfl, rfl, by decide⟩
  | .bool true => exact ⟨'t', _, rfl, rfl, by decide⟩
  | .bool false => exact ⟨'f', _, rfl, rfl, by decide⟩
  | .text _ => exact ⟨'"', _, rfl, rfl, by decide⟩
  | .array [] | .array (_ :: _) => exact ⟨'[', _, rfl, rfl, by decide⟩
  | .object [] | .object (_ :: _) => exact ⟨'\x7b', _, rfl, rfl, by decide⟩
  | .number n =>
    obtain ⟨c, cs, hn, hc⟩ := numberText_eq_cons n
    exact ⟨c, cs, hn, begins_of_number hc⟩

end Json

/-! ### Reading -/

section

variable {c : Char} {cs : List Char} {fuel : Nat}

theorem dropBlanks_cons (h : isJsonBlank c = false) : dropBlanks (c :: cs) = c :: cs :=
  List.dropWhile_cons_of_neg (by simp [h])

theorem readItems_first (item : Json) :
    readItems (fuel + 1) true (item.print ++ cs) = readItem fuel (item.print ++ cs) := by
  obtain ⟨c, ds, hitem, hc⟩ := item.print_eq_cons
  rw [hitem, List.cons_append, readItems, dropBlanks_cons hc.1]
  split
  · contradiction
  · rename_i hcons
    exact absurd (List.cons.inj hcons).1 hc.2
  · rename_i hcons
    rw [← hcons, if_pos rfl]

theorem readItems_next (item : Json) :
    readItems (fuel + 1) false (',' :: (item.print ++ cs)) = readItem fuel (item.print ++ cs) := by
  obtain ⟨c, ds, hitem, hc⟩ := item.print_eq_cons
  rw [hitem, List.cons_append, readItems, dropBlanks_cons rfl]
  split
  · contradiction
  · rename_i hcons
    exact absurd (List.cons.inj hcons).1 (by decide)
  · rename_i hcons
    obtain ⟨rfl, rfl⟩ := List.cons.inj hcons
    simp only [Bool.false_eq_true, if_false, if_true, dropBlanks_cons hc.1]
    split
    · contradiction
    · rename_i hcons
      exact absurd (List.cons.inj hcons).1 hc.2
    · rfl

theorem readDocument_number (h : c = '-' ∨ c.isDigit = true) :
    readDocument (fuel + 1) (c :: cs) = numberDocument (c :: cs) := by
  have hne {d : Char} {rest : List Char} (hd : d ≠ '-' ∧ d.isDigit = false) :
      c :: cs ≠ d :: rest := fun hcons => Json.ne_of_number h hd (List.cons.inj hcons).1
  rw [readDocument, dropBlanks_cons (Json.begins_of_number h).1]
  split
  · contradiction
  iterate 6 exact absurd ‹_› (hne (by decide))
  rename_i hcons
  rw [← (List.cons.inj hcons).1, if_pos h, (List.cons.inj hcons).2]

theorem readMembers_first (name : String) :
    readMembers (fuel + 1) true (Json.quotedText name ++ cs) =
      readMember fuel (Json.quotedText name ++ cs) := rfl

theorem readMembers_next (name : String) :
    readMembers (fuel + 1) false (',' :: (Json.quotedText name ++ cs)) =
      readMember fuel (Json.quotedText name ++ cs) := rfl

/-- A member is read name, colon and value in turn. -/
theorem readMember_cons (name : String) :
    readMember (fuel + 1) (Json.quotedText name ++ ':' :: cs) =
      let (value, rest) := readDocument fuel cs
      let (others, rest) := readMembers fuel false rest
      (.member (.ok name) value others, rest) := by
  rw [Json.quotedText, List.cons_append, List.append_assoc, readMember]
  simp only [List.singleton_append, textDocument_escaped, dropBlanks_cons (c := ':') rfl]

end

theorem endsNumeral_printItems (items : List Json) (rest : List Char) :
    EndsNumeral (Json.printItems items ++ rest) := by
  rintro c hc
  cases items <;> obtain rfl := Option.some.inj hc <;> decide

theorem endsNumeral_printMembers (members : List (String × Json)) (rest : List Char) :
    EndsNumeral (Json.printMembers members ++ rest) := by
  rintro c hc
  cases members <;> obtain rfl := Option.some.inj hc <;> decide

-- The induction is on the value, as the printer goes through it.  What follows the value is left
-- open, since the items after it follow it.  The fuel is counted in characters: an item costs up to
-- three steps beside those of its value, and stands behind a bracket or a comma.

mutual

theorem readDocument_print (j : Json) {rest : List Char} (hrest : EndsNumeral rest) (fuel : Nat)
    (h : 3 * j.print.length ≤ fuel) :
    readDocument fuel (j.print ++ rest) = (j.document, rest) := by
  obtain ⟨c, cs, hprint, -⟩ := j.print_eq_cons
  obtain ⟨fuel, rfl⟩ : ∃ n, fuel = n + 3 := ⟨fuel - 3, by simp [hprint] at h; omega⟩
  match j with
  | .null => rfl
  | .bool true => rfl
  | .bool false => rfl
  | .number n =>
    obtain ⟨c, cs, hn, hc⟩ := Json.numberText_eq_cons n
    have hread := Number.read_numberText hrest n
    rw [hn] at hread
    rw [Json.print, hn, List.cons_append, readDocument_number hc, numberDocument,
      ← List.cons_append, hread, Json.document]
  | .text s =>
    rw [Json.print, Json.quotedText, List.cons_append, List.append_assoc, readDocument,
      dropBlanks_cons rfl]
    simp only [List.singleton_append, textDocument_escaped, Json.document]
  | .array [] => rfl
  | .array (item :: items) =>
    simp only [Json.print, List.length_cons, List.length_append] at h
    have hfirst := readDocument_print item (endsNumeral_printItems items rest) fuel (by omega)
    have hothers := readItems_print items rest fuel (by omega)
    rw [Json.print, List.cons_append, List.append_assoc, readDocument, dropBlanks_cons rfl]
    simp only [readItems_first, readItem, hfirst, hothers, Json.document, Json.documentItems]
  | .object [] => rfl
  | .object ((name, value) :: members) =>
    simp only [Json.print, List.length_cons, List.length_append] at h
    have hvalue := readDocument_print value (endsNumeral_printMembers members rest) fuel (by omega)
    have hothers := readMembers_print members rest fuel (by omega)
    rw [Json.print, List.cons_append, List.append_assoc, List.cons_append, List.append_assoc,
      readDocument, dropBlanks_cons rfl]
    simp only [readMembers_first, readMember_cons, hvalue, hothers, Json.document,
      Json.documentMembers]

theorem readItems_print (items : List Json) (rest : List Char) (fuel : Nat)
    (h : 3 * (Json.printItems items).length ≤ fuel) :
    readItems fuel false (Json.printItems items ++ rest) = (Json.documentItems items, rest) := by
  match items with
  | [] =>
    obtain ⟨fuel, rfl⟩ : ∃ n, fuel = n + 1 := ⟨fuel - 1, by simp [Json.printItems] at h; omega⟩
    rfl
  | item :: items =>
    simp only [Json.printItems, List.length_cons, List.length_append] at h
    obtain ⟨fuel, rfl⟩ : ∃ n, fuel = n + 2 := ⟨fuel - 2, by omega⟩
    have hfirst := readDocument_print item (endsNumeral_printItems items rest) fuel (by omega)
    have hothers := readItems_print items rest fuel (by omega)
    rw [Json.printItems, List.cons_append, List.append_assoc, readItems_next, readItem]
    simp only [hfirst, hothers, Json.documentItems]

theorem readMembers_print (members : List (String × Json)) (rest : List Char) (fuel : Nat)
    (h : 3 * (Json.printMembers members).length ≤ fuel) :
    readMembers fuel false (Json.printMembers members ++ rest) =
      (Json.documentMembers members, rest) := by
  match members with
  | [] =>
    obtain ⟨fuel, rfl⟩ : ∃ n, fuel = n + 1 := ⟨fuel - 1, by simp [Json.printMembers] at h; omega⟩
    rfl
  | (name, value) :: members =>
    simp only [Json.printMembers, List.length_cons, List.length_append] at h
    obtain ⟨fuel, rfl⟩ : ∃ n, fuel = n + 2 := ⟨fuel - 2, by omega⟩
    have hvalue := readDocument_print value (endsNumeral_printMembers members rest) fuel (by omega)
    have hothers := readMembers_print members rest fuel (by omega)
    rw [Json.printMembers, List.cons_append, List.append_assoc, List.cons_append, List.append_assoc,
      readMembers_next, readMember_cons]
    simp only [hvalue, hothers, Json.documentMembers]

end

/-- **The text of a value is read as its document**, with nothing left over. -/
theorem Document.read_print (j : Json) : Document.read j.print = (j.document, []) := by
  have h := readDocument_print j endsNumeral_nil (3 * j.print.length + 3) (by omega)
  rwa [List.append_nil] at h

/-! ### Taking -/

namespace Json

mutual

/-- The numbers of the value read back, and it is nested no deeper than there is room. -/
def Fits : Nat → Json → Prop
  | _, .null | _, .bool _ | _, .text _ => True
  | _, .number n => n.ReadsBack
  | 0, .array _ | 0, .object _ => False
  | room + 1, .array items => FitItems room items
  | room + 1, .object members => FitMembers room members

def FitItems : Nat → List Json → Prop
  | _, [] => True
  | room, item :: items => item.Fits room ∧ FitItems room items

def FitMembers : Nat → List (String × Json) → Prop
  | _, [] => True
  | room, (_, value) :: members => value.Fits room ∧ FitMembers room members

end

end Json

mutual

/-- **The document of a value is taken as that value**, where the value fits. -/
theorem Document.take_document (j : Json) (room : Nat) (h : j.Fits room) :
    j.document.take room = .ok j := by
  match j, room with
  | .null, _ | .bool _, _ | .text _, _ => simp [Json.document, Document.take]
  | .number n, _ =>
    have hn : n.ReadsBack := by simpa [Json.Fits] using h
    rw [Number.ReadsBack] at hn
    simp only [Json.document, Document.take, hn]
  | .array _, 0 | .object _, 0 => simp [Json.Fits] at h
  | .array items, room + 1 =>
    have hitems := Items.take_document items room h
    simp only [Json.document, Document.take, hitems, Except.map_ok]
  | .object members, room + 1 =>
    have hmembers := Members.take_document members room h
    simp only [Json.document, Document.take, hmembers, Except.map_ok]

theorem Items.take_document (items : List Json) (room : Nat) (h : Json.FitItems room items) :
    (Json.documentItems items).take room = .ok items := by
  match items with
  | [] => rfl
  | item :: items =>
    have hfirst := Document.take_document item room h.1
    have hothers := Items.take_document items room h.2
    simp only [Json.documentItems, Items.take, hfirst, hothers, bind, Except.bind]
    rfl

theorem Members.take_document (members : List (String × Json)) (room : Nat)
    (h : Json.FitMembers room members) :
    (Json.documentMembers members).take room = .ok members := by
  match members with
  | [] => rfl
  | (name, value) :: members =>
    have hvalue := Document.take_document value room h.1
    have hothers := Members.take_document members room h.2
    simp only [Json.documentMembers, Members.take, hvalue, hothers, bind, Except.bind]
    rfl

end

end WikibaseQuery
