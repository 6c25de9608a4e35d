import Skirmish.Document.Json.Parser
import Skirmish.Document.Json.Printer
import Skirmish.Proofs.Document.Numeral

/-!
# A document is read from its text

A document all of whose numbers have a text of their own is read from the text that is written for it
(`Json.parse_render`).

## Shape of the proof

Each part of a text is read wherever it stands: a string up to its closing quote
(`readString_writeString`), a number up to where it ends (`Numeral.read_text`), and so a value, by
induction on how the document is made (`readValue_write`). The bound on the steps that the reader
starts with is twice the length of the text, and each part leaves enough of it for the others.
-/

namespace Skirmish.Json

/-- Reading the written form of each item gives the items. -/
theorem mapM_map_eq_some {α β : Type} {read : β → Option α} {write : α → β}
    (reads : ∀ a, read (write a) = some a) (items : List α) :
    (items.map write).mapM read = some items := by
  induction items with
  | nil => rfl
  | cons item items ih =>
    rw [List.map_cons, List.mapM_cons, reads, ih]
    rfl

/-! ## Strings -/

/-- The part of a string that is read from what is written for a character. -/
def pieceOf (c : Char) : Piece :=
  if c.toNat < 0x20 ∧ c ∉ ['\x08', '\x0c', '\n', '\r', '\t'] then .unit c.toNat else .char c

/-- A control character is read from its number. -/
theorem ofDigits?_hexDigit {n : Nat} (h : n < 0x20) :
    Number.ofDigits? 16 ['0', '0', hexDigit (n / 16), hexDigit (n % 16)] = some n := by
  revert n
  decide

/-- A character that stands for another one behind a backslash. -/
theorem readPieces_backslash {c c' : Char} (notUnit : c ≠ 'u') (escaped : escaped? c = some c')
    (rest : List Char) : readPieces ('\\' :: c :: rest) =
      (readPieces rest).map fun (pieces, rest) => (.char c' :: pieces, rest) := by
  rw [readPieces]
  · rw [escaped]
    cases readPieces rest <;> rfl
  · exact fun a b c d rest h => absurd h notUnit

/-- A character that stands for itself. -/
theorem readPieces_plain {c : Char} (notQuote : c ≠ '"') (notBackslash : c ≠ '\\')
    (notControl : ¬c.toNat < 0x20) (rest : List Char) : readPieces (c :: rest) =
      (readPieces rest).map fun (pieces, rest) => (.char c :: pieces, rest) := by
  rw [readPieces]
  · rw [if_neg (not_or.mpr ⟨notBackslash, notControl⟩)]
    cases readPieces rest <;> rfl
  · exact notQuote
  · exact fun a b c d rest h => absurd h notBackslash
  · exact fun c rest h => absurd h notBackslash

/-- What is written for a character is read as one part of a string. -/
theorem readPieces_escape (c : Char) (rest : List Char) :
    readPieces (escape c ++ rest) =
      (readPieces rest).map fun (pieces, rest) => (pieceOf c :: pieces, rest) := by
  unfold escape
  split
  case h_8 hquote hbackslash hb hf hn hr ht =>
    split
    · rename_i hcontrol
      have hnamed : c ∉ ['\x08', '\x0c', '\n', '\r', '\t'] := by
        simp only [List.mem_cons, List.not_mem_nil, or_false, not_or]
        exact ⟨hb, hf, hn, hr, ht⟩
      rw [pieceOf, if_pos ⟨hcontrol, hnamed⟩]
      simp only [List.cons_append, List.nil_append, readPieces, ofDigits?_hexDigit hcontrol]
      cases readPieces rest <;> rfl
    · rename_i hcontrol
      rw [pieceOf, if_neg fun h => hcontrol h.1]
      exact readPieces_plain hquote hbackslash hcontrol rest
  all_goals exact readPieces_backslash (by decide) rfl rest

/-- The parts that are read for a control character are joined to it. -/
theorem joinPieces_unit {n : Nat} (h : n < 0x20) (pieces : List Piece) :
    joinPieces (.unit n :: pieces) = (joinPieces pieces).map (Char.ofNat n :: ·) := by
  have hhigh : isHigh n = false := by
    simp only [isHigh, Bool.and_eq_false_iff, decide_eq_false_iff_not]
    omega
  have hlow : isLow n = false := by
    simp only [isLow, Bool.and_eq_false_iff, decide_eq_false_iff_not]
    omega
  cases pieces with
  | nil => simp [joinPieces, hhigh, hlow]
  | cons piece pieces =>
    cases piece with
    | char c => simp [joinPieces, hhigh, hlow]
    | unit m => simp [joinPieces, hhigh, hlow]

/-- A character in front of the pieces is a character in front of the text. -/
theorem joinPieces_pieceOf (c : Char) (pieces : List Piece) :
    joinPieces (pieceOf c :: pieces) = (joinPieces pieces).map (c :: ·) := by
  rw [pieceOf]
  split
  · rename_i h
    rw [joinPieces_unit h.1, Char.ofNat_toNat]
  · rw [joinPieces]

/-- The characters of a string are read up to the closing quote. -/
theorem readPieces_flatMap_escape (cs rest : List Char) :
    readPieces (cs.flatMap escape ++ '"' :: rest) = some (cs.map pieceOf, rest) := by
  induction cs with
  | nil => rw [List.flatMap_nil, List.nil_append, readPieces, List.map_nil]
  | cons c cs ih =>
    rw [List.flatMap_cons, List.append_assoc, readPieces_escape, ih]
    rfl

/-- The pieces of the characters join to the text. -/
theorem joinPieces_map_pieceOf (cs : List Char) : joinPieces (cs.map pieceOf) = some cs := by
  induction cs with
  | nil => rfl
  | cons c cs ih => rw [List.map_cons, joinPieces_pieceOf, ih, Option.map_some]

/-- **A string is read from what is written for it.** -/
theorem readString_writeString (s : String) (rest : List Char) :
    ∃ cs, writeString s ++ rest = '"' :: cs ∧ readString cs = some (some s, rest) := by
  refine ⟨s.toList.flatMap escape ++ '"' :: rest, by simp [writeString], ?_⟩
  rw [readString, readPieces_flatMap_escape]
  simp only [Option.map_some, joinPieces_map_pieceOf, String.ofList_toList]

/-! ## Values -/

/-- Whether every part of a document has a text of its own: the integers have 64 bits, and the other
numbers are finite. -/
inductive HasText : Document → Prop where
  | null : HasText .null
  | bool (b : Bool) : HasText (.bool b)
  | integer {i : Int} (low : Int64.minValue.toInt ≤ i) (high : i < UInt64.size) :
    HasText (.integer i)
  | real {x : Number.Single} (finite : Number.Single.isFinite x = true) : HasText (.real x)
  | text (s : String) : HasText (.text s)
  | list {items : List Document} (each : ∀ item ∈ items, HasText item) : HasText (.list items)
  | record {fields : List (String × Document)} (each : ∀ field ∈ fields, HasText field.2) :
    HasText (.record fields)

/-- Whether a document is read from what is written for it, wherever that stands. -/
def ReadsBack (d : Document) : Prop :=
  ∀ bound rest, 2 * (write d).length ≤ bound → EndsNumber rest →
    readValue bound (write d ++ rest) = some (d, rest)

/-- Whether a text begins with something that is neither a blank nor a closing bracket. -/
def BeginsValue (cs : List Char) : Prop := ∃ c rest, cs = c :: rest ∧ isBlank c = false ∧ c ≠ ']'

theorem BeginsValue.skipBlanks {cs : List Char} (h : BeginsValue cs) : skipBlanks cs = cs := by
  obtain ⟨c, rest, rfl, hblank, -⟩ := h
  rw [Json.skipBlanks, List.dropWhile_cons_of_neg (by simp [hblank])]

/-- Whether a value begins is seen from its first character. -/
theorem BeginsValue.append {cs : List Char} (h : BeginsValue cs) (rest : List Char) :
    BeginsValue (cs ++ rest) := by
  obtain ⟨c, rest', rfl, hc⟩ := h
  exact ⟨c, rest' ++ rest, rfl, hc⟩

/-- A numeral begins a value. -/
theorem Numeral.beginsValue_text {n : Numeral} (wellFormed : n.WellFormed) :
    BeginsValue n.text := by
  obtain ⟨c, cs, htext, hne⟩ := exists_text_eq_cons wellFormed
  refine ⟨c, cs, htext, ?_, hne ']' (by decide) (by decide)⟩
  have hspace := hne ' ' (by decide) (by decide)
  have hnewline := hne '\n' (by decide) (by decide)
  have htab := hne '\t' (by decide) (by decide)
  have hreturn := hne '\r' (by decide) (by decide)
  simp [isBlank, hspace, hnewline, htab, hreturn]

/-- A number is read as the value that its numeral stands for. -/
theorem readValue_text {n : Numeral} (wellFormed : n.WellFormed) (bound : Nat) {rest : List Char}
    (ends : EndsNumber rest) :
    readValue (bound + 1) (n.text ++ rest) = some (n.document, rest) := by
  have hread := Numeral.read_text wellFormed ends
  have hskip := ((Numeral.beginsValue_text wellFormed).append rest).skipBlanks
  obtain ⟨c, cs, htext, hne⟩ := Numeral.exists_text_eq_cons wellFormed
  rw [htext] at hread hskip ⊢
  rw [readValue, hskip]
  split
  case h_7 =>
    rw [hread]
    rfl
  all_goals
    rename_i heq
    exact absurd (List.head_eq_of_cons_eq heq) (hne _ (by decide) (by decide))

/-- What is written for a document begins a value. -/
theorem beginsValue_write {d : Document} (hasText : HasText d) : BeginsValue (write d) := by
  cases hasText with
  | null => exact ⟨'n', _, by rw [write], rfl, by decide⟩
  | bool b =>
    cases b with
    | false => exact ⟨'f', _, by rw [write], rfl, by decide⟩
    | true => exact ⟨'t', _, by rw [write], rfl, by decide⟩
  | integer low high =>
    obtain ⟨n, hn, htext, -⟩ := Numeral.exists_integer_eq_text low high
    rw [write, htext]
    exact Numeral.beginsValue_text hn
  | real finite =>
    obtain ⟨n, hn, htext, -⟩ := Numeral.exists_document_eq_text finite
    rw [write, writeReal, if_pos finite, htext]
    exact Numeral.beginsValue_text hn
  -- Texts, lists and records begin with a character of their own.
  | text s => exact ⟨'"', _, by rw [write]; rfl, rfl, by decide⟩
  | @list items each =>
    cases items with
    | nil => exact ⟨'[', _, by rw [write], rfl, by decide⟩
    | cons item items => exact ⟨'[', _, by rw [write]; rfl, rfl, by decide⟩
  | @record fields each =>
    cases fields with
    | nil => exact ⟨'{', _, by rw [write], rfl, by decide⟩
    | cons field fields => exact ⟨'{', _, by rw [write]; rfl, rfl, by decide⟩

/-- There is a first step, since no text of a document is empty. -/
theorem readsBack_of_step {d : Document} (hasText : HasText d)
    (step : ∀ bound rest, 2 * (write d).length ≤ bound + 1 → EndsNumber rest →
      readValue (bound + 1) (write d ++ rest) = some (d, rest)) : ReadsBack d := by
  intro bound rest hbound ends
  have hpos : 0 < (write d).length := by
    obtain ⟨c, cs, hcs, -⟩ := beginsValue_write hasText
    rw [hcs]
    exact Nat.succ_pos _
  obtain ⟨bound, rfl⟩ := Nat.exists_eq_add_of_le' (show 1 ≤ bound by omega)
  exact step bound rest hbound ends

/-! ## Lists -/

/-- A number in a list ends at the comma or the bracket after it. -/
theorem endsNumber_writeItems (items : List Document) (rest : List Char) :
    EndsNumber (writeItems items ++ rest) := by
  intro c hc
  cases items with
  | nil =>
    cases hc
    decide
  | cons item items =>
    cases hc
    decide

/-- The items of a list are read up to the closing bracket. -/
theorem readItems_write (items : List Document) : ∀ item, (∀ d ∈ item :: items, ReadsBack d) →
    ∀ bound rest, 2 * (write item ++ writeItems items).length ≤ bound →
      readItems bound (write item ++ writeItems items ++ rest) = some (item :: items, rest) := by
  induction items with
  | nil =>
    intro item each bound rest hbound
    simp only [writeItems, List.length_append, List.length_singleton] at hbound
    obtain ⟨bound, rfl⟩ := Nat.exists_eq_add_of_le' (show 1 ≤ bound by omega)
    have hitem := each item List.mem_cons_self bound ([']'] ++ rest) (by omega)
      (endsNumber_writeItems [] rest)
    rw [writeItems, List.append_assoc, readItems, hitem]
    rfl
  | cons next items ih =>
    intro item each bound rest hbound
    simp only [writeItems, List.length_append, List.length_cons] at hbound
    obtain ⟨bound, rfl⟩ := Nat.exists_eq_add_of_le' (show 1 ≤ bound by omega)
    have hitem := each item List.mem_cons_self bound (writeItems (next :: items) ++ rest) (by omega)
      (endsNumber_writeItems _ rest)
    -- One step of the bound goes to this item, and the rest of the text is shorter by as much.
    have hitems := ih next (fun d hd => each d (List.mem_cons_of_mem _ hd)) bound rest
      (by rw [List.length_append]; omega)
    have hread : readItems (bound + 1) (write item ++ writeItems (next :: items) ++ rest) =
        (readItems bound (write next ++ writeItems items ++ rest)).map
          fun read => (item :: read.1, read.2) := by
      rw [List.append_assoc, readItems, hitem, writeItems]
      rfl
    rw [hread, hitems]
    rfl

/-- Behind an opening bracket stands the closing one, or else items. -/
theorem readValue_bracket_eq (bound : Nat) (cs : List Char) :
    readValue (bound + 1) ('[' :: cs) = match skipBlanks cs with
      | ']' :: rest => some (.list [], rest)
      | rest => (readItems bound rest).map fun read => (.list read.1, read.2) := by
  rw [readValue]
  rfl

/-- Behind an opening bracket there are items, unless the bracket is closed at once. -/
theorem readValue_bracket {cs : List Char} (begins : BeginsValue cs) (bound : Nat) :
    readValue (bound + 1) ('[' :: cs) =
      (readItems bound cs).map fun read => (.list read.1, read.2) := by
  have hskip := begins.skipBlanks
  obtain ⟨c, rest, rfl, -, hbracket⟩ := begins
  rw [readValue_bracket_eq, hskip]
  split
  · rename_i heq
    exact absurd (List.head_eq_of_cons_eq heq) hbracket
  · rfl

/-- A list is read from what is written for it, if its items are. -/
theorem readsBack_list {items : List Document} (each : ∀ d ∈ items, HasText d)
    (reads : ∀ d ∈ items, ReadsBack d) : ReadsBack (.list items) := by
  refine readsBack_of_step (.list each) fun bound rest hbound _ => ?_
  cases items with
  | nil =>
    rw [write, readValue]
    rfl
  | cons item items =>
    have hbegins := ((beginsValue_write (each item List.mem_cons_self)).append
      (writeItems items)).append rest
    rw [write, List.cons_append, List.length_cons] at hbound
    rw [write, List.cons_append, List.cons_append, readValue_bracket hbegins,
      readItems_write items item reads bound rest (by omega)]
    rfl

/-! ## Records -/

theorem endsNumber_writeFields (fields : List (String × Document)) (rest : List Char) :
    EndsNumber (writeFields fields ++ rest) := by
  intro c hc
  cases fields with
  | nil =>
    cases hc
    decide
  | cons field fields =>
    cases hc
    decide

/-- The text of a field. -/
def writeField (field : String × Document) : List Char :=
  writeString field.1 ++ ':' :: write field.2

theorem writeFields_cons (field : String × Document) (fields : List (String × Document)) :
    writeFields (field :: fields) = ',' :: (writeField field ++ writeFields fields) := by
  simp only [writeFields, writeField, List.cons_append, List.append_assoc]

theorem write_record_cons (field : String × Document) (fields : List (String × Document)) :
    write (.record (field :: fields)) = '{' :: (writeField field ++ writeFields fields) := by
  simp only [write, writeField, List.cons_append, List.append_assoc]

/-- A field is read up to what stands behind its value. -/
theorem readMembers_writeField {field : String × Document} (reads : ReadsBack field.2)
    {bound : Nat} {rest : List Char} (hbound : 2 * (write field.2).length ≤ bound)
    (ends : EndsNumber rest) :
    readMembers (bound + 1) (writeField field ++ rest) = match skipBlanks rest with
      | ',' :: rest => (readMembers bound rest).map
          fun (members, rest) => ((some field.1, field.2) :: members, rest)
      | '}' :: rest => some ([(some field.1, field.2)], rest)
      | _ => none := by
  obtain ⟨cs, hname, hread⟩ := readString_writeString field.1 (':' :: (write field.2 ++ rest))
  have hvalue := reads bound rest hbound ends
  have hquote : skipBlanks ('"' :: cs) = '"' :: cs := rfl
  have hcolon : skipBlanks (':' :: (write field.2 ++ rest)) = ':' :: (write field.2 ++ rest) := rfl
  have hmembers := readMembers.eq_def (bound + 1) ('"' :: cs)
  simp only [hquote, hread, hcolon, hvalue] at hmembers
  rw [writeField, List.append_assoc, List.cons_append, hname]
  exact hmembers

/-- The fields of a record are read up to the closing brace. -/
theorem readMembers_write (fields : List (String × Document)) :
    ∀ field, (∀ f ∈ field :: fields, ReadsBack f.2) →
      ∀ bound rest, 2 * (writeField field ++ writeFields fields).length ≤ bound →
        readMembers bound (writeField field ++ writeFields fields ++ rest) =
          some ((field :: fields).map fun f => (some f.1, f.2), rest) := by
  induction fields with
  | nil =>
    intro field each bound rest hbound
    simp only [writeField, List.length_append, List.length_cons] at hbound
    obtain ⟨bound, rfl⟩ := Nat.exists_eq_add_of_le' (show 1 ≤ bound by omega)
    rw [List.append_assoc, readMembers_writeField (each field List.mem_cons_self) (by omega)
      (endsNumber_writeFields [] rest), writeFields]
    rfl
  | cons next fields ih =>
    intro field each bound rest hbound
    rw [writeFields_cons, List.length_append, List.length_cons] at hbound
    -- The value is shorter than the field with its name, which leaves enough of the bound.
    have hlength : (write field.2).length ≤ (writeField field).length := by
      rw [writeField, List.length_append, List.length_cons]
      omega
    obtain ⟨bound, rfl⟩ := Nat.exists_eq_add_of_le' (show 1 ≤ bound by omega)
    have hmembers := ih next (fun f hf => each f (List.mem_cons_of_mem _ hf)) bound rest (by omega)
    have hread : readMembers (bound + 1) (writeField field ++ writeFields (next :: fields) ++ rest) =
        (readMembers bound (writeField next ++ writeFields fields ++ rest)).map
          fun read => ((some field.1, field.2) :: read.1, read.2) := by
      rw [List.append_assoc, readMembers_writeField (each field List.mem_cons_self) (by omega)
        (endsNumber_writeFields _ rest), writeFields_cons]
      rfl
    rw [hread, hmembers]
    rfl

/-- Fields whose names were all read make a record. -/
theorem recordOf_map_some (fields : List (String × Document)) :
    recordOf (fields.map fun f => (some f.1, f.2)) = .record fields := by
  have hmap : (fields.map fun f => (some f.1, f.2)).mapM
      (fun member => member.1.map fun name => (name, member.2)) = some fields := by
    refine mapM_map_eq_some (fun f => ?_) fields
    rfl
  simp only [recordOf, hmap]

/-- A record is read from what is written for it, if its fields are. -/
theorem readsBack_record {fields : List (String × Document)} (each : ∀ f ∈ fields, HasText f.2)
    (reads : ∀ f ∈ fields, ReadsBack f.2) : ReadsBack (.record fields) := by
  refine readsBack_of_step (.record each) fun bound rest hbound _ => ?_
  cases fields with
  | nil =>
    rw [write, readValue]
    rfl
  | cons field fields =>
    rw [write_record_cons, List.length_cons] at hbound
    have hmembers := readMembers_write fields field reads bound rest (by omega)
    obtain ⟨cs, hname, -⟩ := readString_writeString field.1
      (':' :: (write field.2 ++ (writeFields fields ++ rest)))
    -- A name begins with a quotation mark, so it is not taken for the closing brace.
    have hcs : writeField field ++ writeFields fields ++ rest = '"' :: cs := by
      simp only [writeField, List.append_assoc, List.cons_append, hname]
    have hread : readValue (bound + 1) ('{' :: '"' :: cs) =
        (readMembers bound ('"' :: cs)).map fun read => (recordOf read.1, read.2) := by
      rw [readValue]
      rfl
    rw [write_record_cons, List.cons_append, hcs, hread, ← hcs, hmembers, Option.map_some]
    simp only [recordOf_map_some]

/-! ## Documents -/

/-- **A document is read from what is written for it**, wherever that stands. -/
theorem readsBack {d : Document} (hasText : HasText d) : ReadsBack d := by
  induction hasText with
  | null =>
    refine readsBack_of_step .null fun bound rest _ _ => ?_
    rw [write, readValue]
    rfl
  | bool b =>
    refine readsBack_of_step (.bool b) fun bound rest _ _ => ?_
    cases b with
    | false =>
      rw [write, readValue]
      rfl
    | true =>
      rw [write, readValue]
      rfl
  | integer low high =>
    refine readsBack_of_step (.integer low high) fun bound rest _ ends => ?_
    obtain ⟨n, hn, htext, hvalue⟩ := Numeral.exists_integer_eq_text low high
    rw [write, htext, readValue_text hn bound ends, hvalue]
  | real finite =>
    refine readsBack_of_step (.real finite) fun bound rest _ ends => ?_
    obtain ⟨n, hn, htext, hvalue⟩ := Numeral.exists_document_eq_text finite
    rw [write, writeReal, if_pos finite, htext, readValue_text hn bound ends, hvalue]
  | text s =>
    refine readsBack_of_step (.text s) fun bound rest _ _ => ?_
    obtain ⟨cs, hwrite, hread⟩ := readString_writeString s rest
    have hstring : readValue (bound + 1) ('"' :: cs) =
        (readString cs).map fun read => (textOf read.1, read.2) := by
      rw [readValue]
      rfl
    rw [write, hwrite, hstring, hread]
    rfl
  -- The induction gives that every entry reads back, whatever comes after it.
  | list each reads => exact readsBack_list each reads
  | record each reads => exact readsBack_record each reads

/-- **The text of a document denotes the document.** -/
theorem parse_render {d : Document} (hasText : HasText d) : parse (render d) = some d := by
  have hread := readsBack hasText (2 * (write d).length + 2) [] (by omega) endsNumber_nil
  rw [List.append_nil] at hread
  simp only [parse, render, String.toList_ofList, hread]
  rfl

end Skirmish.Json
