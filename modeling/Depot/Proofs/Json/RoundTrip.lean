import Depot.Json.Document
import Depot.Proofs.Dictionary
import Depot.Proofs.Json.Literal

/-!
# A document that was written is read back

The text of a value is swept into its words (`tokens_write`), and the words are built into the document of the
value (`build_words`), so this is what the text is read as (`Document.ofBytes_write`).  The document is kept as
the value again, if not too many containers are nested in it (`Document.keep_ofValue`).  Each step goes by
recursion on the value with anything behind it: the text behind a value must not go on with a word, the words
behind it are built into whatever is still open.
-/

namespace Depot.Json

open Utf8 (encode)

/-! ### The words of a value -/

mutual

/-- The words of a value. -/
def words : Json → List Token
  | null => [.null]
  | bool b => [.bool b]
  | int n => [.number (some (.int n))]
  | decimal s e => [.number (some (.decimal s e))]
  | str s => [.text (some s)]
  | array items => .openArray :: (wordsOfItems items ++ [.closeArray])
  | object fields => .openObject :: (wordsOfFields fields ++ [.closeObject])

def wordsOfItems : List Json → List Token
  | [] => []
  | [v] => v.words
  | v :: w :: more => v.words ++ .comma :: wordsOfItems (w :: more)

def wordsOfFields : List (String × Json) → List Token
  | [] => []
  | [(k, v)] => .text (some k) :: .colon :: v.words
  | (k, v) :: f :: more => .text (some k) :: .colon :: (v.words ++ .comma :: wordsOfFields (f :: more))

end

/-! ### The sweep -/

namespace Scanner

/-- Behind this point no word goes on: there is a comma or the end of a container, or nothing. -/
def Closing (rest : Bytes) : Prop := ∀ b ∈ rest.head?, b = 0x2C ∨ b = 0x5D ∨ b = 0x7D

/-- One byte of the sweep. -/
theorem tokens_cons {s next : Scanner} {b : UInt8} {done : List Token} (step : s.feed b = some (done, next))
    (rest : Bytes) : s.tokens (b :: rest) = (next.tokens rest).map (done ++ ·) := by
  rw [tokens, step]
  show (next.tokens rest).bind (fun more => some (done ++ more)) = _
  rw [Option.map_eq_bind]
  rfl

/-- A byte that completes no word. -/
theorem tokens_cons_quiet {s next : Scanner} {b : UInt8} (step : s.feed b = some ([], next))
    (rest : Bytes) : s.tokens (b :: rest) = next.tokens rest := by
  rw [tokens_cons step]
  simp

/-- A mark between words. -/
theorem tokens_mark {b : UInt8} {t : Token} (mark : start b = some ([t], between)) (rest : Bytes) :
    between.tokens (b :: rest) = (between.tokens rest).map (t :: ·) :=
  tokens_cons (s := between) mark rest

/-- **A run of bytes inside a word**: each of them is put in front of those that were read before it. -/
theorem tokens_within {word : (read : Bytes) → Scanner} {bytes : Bytes}
    (goesOn : ∀ b ∈ bytes, ∀ read, (word read).feed b = some ([], word (b :: read)))
    (read rest : Bytes) : (word read).tokens (bytes ++ rest) = (word (bytes.reverse ++ read)).tokens rest := by
  induction bytes generalizing read with
  | nil => rfl
  | cons b bytes ih =>
    have step := goesOn b List.mem_cons_self read
    rw [List.cons_append, tokens_cons_quiet step, List.reverse_cons, List.append_assoc]
    apply ih
    intro b' hb'
    exact goesOn b' (List.mem_cons_of_mem b hb')

/-! #### Strings -/

theorem tokens_inText {bytes : Bytes} (plain : ∀ b ∈ bytes, b ≠ 0x22 ∧ b ≠ 0x5C ∧ ¬ b.toNat < 0x20)
    (read rest : Bytes) :
    (inText read false).tokens (bytes ++ rest) = (inText (bytes.reverse ++ read) false).tokens rest := by
  apply @tokens_within (inText · false)
  intro b hb read
  obtain ⟨noMark, noSlash, noControl⟩ := plain b hb
  show (inText read false).feed b = some ([], inText (b :: read) false)
  rw [feed, if_neg noMark, if_neg noControl, decide_eq_false noSlash]

theorem tokens_inText_escape (b : UInt8) (read rest : Bytes) :
    (inText read false).tokens (0x5C :: b :: rest) = (inText (b :: 0x5C :: read) false).tokens rest := by
  have first : (inText read false).feed 0x5C = some ([], inText (0x5C :: read) true) := rfl
  have second : (inText (0x5C :: read) true).feed b = some ([], inText (b :: 0x5C :: read) false) := rfl
  rw [tokens_cons_quiet first, tokens_cons_quiet second]

/-- Inside a string the sweep goes on over the written form of any character. -/
theorem tokens_escapeChar (c : Char) (read rest : Bytes) :
    (inText read false).tokens (encode (escapeChar c) ++ rest) =
      (inText ((encode (escapeChar c)).reverse ++ read) false).tokens rest := by
  rcases escapeChar_cases c with ⟨e, b, form, -⟩ | ⟨-, form⟩ | ⟨noMark, noSlash, noControl, form⟩
  · rw [form]
    exact tokens_inText_escape e read rest
  · have plain : ∀ b ∈ [0x30, 0x30, Utf8.byte (hexDigit (c.toNat / 16)).toNat,
        Utf8.byte (hexDigit c.toNat).toNat], b ≠ 0x22 ∧ b ≠ 0x5C ∧ ¬ b.toNat < 0x20 := by
      intro b hb
      simp only [List.mem_cons, List.not_mem_nil, or_false] at hb
      rcases hb with rfl | rfl | rfl | rfl
      · decide
      · decide
      · exact plain_hexDigit _
      · exact plain_hexDigit _
    rw [form, List.cons_append, List.cons_append, tokens_inText_escape, tokens_inText plain]
    simp
  · rw [form]
    exact tokens_inText (fun b hb => plain_of_mem_encodeChar noMark noSlash noControl hb) read rest

theorem tokens_quoted (s : String) (rest : Bytes) :
    between.tokens (encode (quote s) ++ rest) = (between.tokens rest).map (.text (some s) :: ·) := by
  have inside (text : List Char) (read rest : Bytes) :
      (inText read false).tokens (encode (text.flatMap escapeChar) ++ rest) =
        (inText ((encode (text.flatMap escapeChar)).reverse ++ read) false).tokens rest := by
    induction text generalizing read with
    | nil => rfl
    | cons c text ih =>
      rw [List.flatMap_cons, Utf8.encode_append, List.append_assoc, tokens_escapeChar, ih,
        List.reverse_append, List.append_assoc]
  have opens : between.feed 0x22 = some ([], inText [] false) := rfl
  have closes : (inText ((encode (s.toList.flatMap escapeChar)).reverse ++ []) false).feed 0x22 =
      some ([.text (some s)], between) := by
    rw [feed, if_pos rfl, List.append_nil, List.reverse_reverse, textToken_quoted, Option.map_some]
  have form : encode (quote s) ++ rest =
      0x22 :: (encode (s.toList.flatMap escapeChar) ++ 0x22 :: rest) := by
    rw [quote, Utf8.encode_append, Utf8.encode_cons]
    show 0x22 :: ((_ ++ [0x22]) ++ rest) = _
    rw [List.append_assoc]
    rfl
  rw [form, tokens_cons_quiet opens, inside, tokens_cons closes]
  rfl

/-! #### Words without quotation marks -/

theorem feed_closing {b : UInt8} (closing : b = 0x2C ∨ b = 0x5D ∨ b = 0x7D) :
    isNumberByte b = false ∧ isLetter b = false ∧ ∃ t, start b = some ([t], between) := by
  rcases closing with rfl | rfl | rfl
  · exact ⟨by decide, by decide, .comma, rfl⟩
  · exact ⟨by decide, by decide, .closeArray, rfl⟩
  · exact ⟨by decide, by decide, .closeObject, rfl⟩

/-- **A word is complete** where something closing follows: it is told before the mark, or in the end. -/
theorem tokens_closing {s : Scanner} {rest : Bytes} {t : Token} (closing : Closing rest)
    (ends : s.finish = some [t])
    (stops : ∀ b mark, isNumberByte b = false → isLetter b = false →
      start b = some ([mark], between) → s.feed b = some ([t, mark], between)) :
    s.tokens rest = (between.tokens rest).map (t :: ·) := by
  rcases rest with - | ⟨b, rest⟩
  · rw [tokens, ends]
    rfl
  · obtain ⟨noNumber, noLetter, mark, starts⟩ := feed_closing (closing b rfl)
    have step := stops b mark noNumber noLetter starts
    rw [tokens_cons step, tokens_mark starts, Option.map_map]
    rfl

theorem tokens_inNumber_closing {read rest : Bytes} {t : Token} (closing : Closing rest)
    (whole : numberToken read.reverse = some t) :
    (inNumber read).tokens rest = (between.tokens rest).map (t :: ·) := by
  apply tokens_closing closing
  · rw [finish, whole]
    rfl
  · intro b mark noNumber _ starts
    rw [feed, noNumber, after, whole, starts]
    rfl

theorem tokens_inWord_closing {read rest : Bytes} {t : Token} (closing : Closing rest)
    (whole : wordToken read.reverse = some t) :
    (inWord read).tokens rest = (between.tokens rest).map (t :: ·) := by
  apply tokens_closing closing
  · rw [finish, whole]
    rfl
  · intro b mark _ noLetter starts
    rw [feed, noLetter, after, whole, starts]
    rfl

theorem tokens_inNumber {bytes : Bytes} (all : ∀ b ∈ bytes, isNumberByte b = true) (read rest : Bytes) :
    (inNumber read).tokens (bytes ++ rest) = (inNumber (bytes.reverse ++ read)).tokens rest := by
  apply tokens_within
  intro b hb read
  rw [feed, if_pos (all b hb)]

theorem tokens_inWord {bytes : Bytes} (all : ∀ b ∈ bytes, isLetter b = true) (read rest : Bytes) :
    (inWord read).tokens (bytes ++ rest) = (inWord (bytes.reverse ++ read)).tokens rest := by
  apply tokens_within
  intro b hb read
  rw [feed, if_pos (all b hb)]

/-- A run of letters up to something closing. -/
theorem tokens_word {b : UInt8} {bytes rest : Bytes} {t : Token} (closing : Closing rest)
    (opens : start b = some ([], inWord [b])) (all : ∀ b ∈ bytes, isLetter b = true)
    (whole : wordToken (b :: bytes) = some t) :
    between.tokens (b :: bytes ++ rest) = (between.tokens rest).map (t :: ·) := by
  have step : between.feed b = some ([], inWord [b]) := opens
  rw [List.cons_append, tokens_cons_quiet step, tokens_inWord all]
  exact tokens_inWord_closing closing (by simpa using whole)

theorem start_of_isDigit {b : UInt8} (h : (isDigit b || b = 0x2D) = true) :
    start b = some ([], inNumber [b]) := by
  have noSpace : isSpace b = false := by
    rw [isSpace, decide_eq_false_iff_not]
    rintro (rfl | rfl | rfl | rfl) <;> exact absurd h (by decide)
  rw [start, noSpace, if_neg Bool.false_ne_true, if_pos h]

theorem isNumberByte_of_mem_digits {n : Int} {b : UInt8} (h : b ∈ encode (digits n)) :
    isNumberByte b = true := by
  rcases mem_encode_digits h with digit | rfl
  · simp [isNumberByte, digit]
  · decide

/-- A sign and digits, with a power of ten or without, up to something closing. -/
theorem tokens_number {n : Int} {power rest : Bytes} {t : Token} (closing : Closing rest)
    (all : ∀ b ∈ power, isNumberByte b = true)
    (whole : numberToken (encode (digits n) ++ power) = some t) :
    between.tokens (encode (digits n) ++ power ++ rest) = (between.tokens rest).map (t :: ·) := by
  have number : ∀ b ∈ encode (digits n) ++ power, isNumberByte b = true := by
    intro b hb
    rcases List.mem_append.mp hb with front | back
    · exact isNumberByte_of_mem_digits front
    · exact all b back
  obtain ⟨b, more, form, opens⟩ := encode_digits_starts n
  rw [form, List.cons_append] at number whole ⊢
  have step : between.feed b = some ([], inNumber [b]) := start_of_isDigit opens
  rw [List.cons_append, tokens_cons_quiet step,
    tokens_inNumber (fun b' hb' => number b' (List.mem_cons_of_mem b hb'))]
  exact tokens_inNumber_closing closing (by simpa using whole)

/-! #### Values -/

theorem closing_nil : Closing [] := by
  intro b hb
  simp at hb

theorem closing_cons {b : UInt8} (h : b = 0x2C ∨ b = 0x5D ∨ b = 0x7D) (rest : Bytes) :
    Closing (b :: rest) := by
  intro b' hb'
  rw [List.head?_cons, Option.mem_some_iff] at hb'
  exact hb' ▸ h

mutual

/-- **The sweep cuts the text of a value into its words.** -/
theorem tokens_write : ∀ (v : Json) (rest : List Char), v.isNormal = true → Closing (encode rest) →
    between.tokens (encode (v.write rest)) = (between.tokens (encode rest)).map (v.words ++ ·)
  | null, rest, _, closing => by
    rw [write, Utf8.encode_append]
    exact tokens_word closing rfl (by decide +kernel) (by decide +kernel)
  | bool true, rest, _, closing => by
    rw [write, Utf8.encode_append]
    exact tokens_word closing rfl (by decide +kernel) (by decide +kernel)
  | bool false, rest, _, closing => by
    rw [write, Utf8.encode_append]
    exact tokens_word closing rfl (by decide +kernel) (by decide +kernel)
  | int n, rest, normal, closing => by
    have fits : intFits n = true := by simpa [isNormal] using normal
    have whole : numberToken (encode (digits n) ++ []) = some (.number (some (.int n))) := by
      rw [List.append_nil, numberToken_int fits]
    rw [write, Utf8.encode_append, ← List.append_nil (encode (digits n))]
    exact tokens_number closing (by simp) whole
  | decimal s e, rest, normal, closing => by
    have fits : decimalFits s.natAbs e = true := by simpa [isNormal] using normal
    have whole := numberToken_decimal fits
    rw [Utf8.encode_append] at whole
    rw [write, Utf8.encode_append, ← List.cons_append, Utf8.encode_append, ← List.append_assoc]
    refine tokens_number closing ?_ whole
    intro b hb
    rcases List.mem_cons.mp hb with rfl | back
    · decide
    · exact isNumberByte_of_mem_digits back
  | str s, rest, _, _ => by
    rw [write, Utf8.encode_append, tokens_quoted]
    rfl
  | array items, rest, normal, _ => by
    -- the items are written in front of the bracket, which closes the last of them
    have ends : Closing (encode (']' :: rest)) := closing_cons (by decide) _
    have closes : between.tokens (encode (']' :: rest)) =
        (between.tokens (encode rest)).map (.closeArray :: ·) := tokens_mark rfl _
    rw [write]
    show between.tokens (0x5B :: encode (writeItems items (']' :: rest))) = _
    rw [tokens_mark rfl, tokens_writeItems items _ (by simpa [isNormal] using normal) ends,
      closes, Option.map_map, Option.map_map]
    congr 1
    funext more
    simp [words]
  | object fields, rest, normal, _ => by
    have ends : Closing (encode ('}' :: rest)) := closing_cons (by decide) _
    have closes : between.tokens (encode ('}' :: rest)) =
        (between.tokens (encode rest)).map (.closeObject :: ·) := tokens_mark rfl _
    have fieldsNormal : fieldsAreNormal fields = true := by
      simp only [isNormal, Bool.and_eq_true] at normal
      exact normal.2
    rw [write]
    show between.tokens (0x7B :: encode (writeFields fields ('}' :: rest))) = _
    rw [tokens_mark rfl, tokens_writeFields fields _ fieldsNormal ends, closes,
      Option.map_map, Option.map_map]
    congr 1
    funext more
    simp [words]

theorem tokens_writeItems : ∀ (items : List Json) (rest : List Char), areNormal items = true →
    Closing (encode rest) → between.tokens (encode (writeItems items rest)) =
      (between.tokens (encode rest)).map (wordsOfItems items ++ ·)
  | [], rest, _, _ => by simp [writeItems, wordsOfItems]
  | [v], rest, normal, closing => by
    rw [writeItems, tokens_write v rest (by simpa [areNormal] using normal) closing, wordsOfItems]
  | v :: w :: more, rest, normal, closing => by
    rw [areNormal, Bool.and_eq_true] at normal
    have comma : Closing (encode (',' :: writeItems (w :: more) rest)) := closing_cons (by decide) _
    have follows : between.tokens (encode (',' :: writeItems (w :: more) rest)) =
        (between.tokens (encode (writeItems (w :: more) rest))).map (.comma :: ·) :=
      tokens_mark rfl _
    rw [writeItems, tokens_write v _ normal.1 comma, follows,
      tokens_writeItems (w :: more) rest normal.2 closing, Option.map_map, Option.map_map]
    congr 1
    funext tail
    simp [wordsOfItems]

theorem tokens_writeFields : ∀ (fields : List (String × Json)) (rest : List Char),
    fieldsAreNormal fields = true → Closing (encode rest) →
    between.tokens (encode (writeFields fields rest)) =
      (between.tokens (encode rest)).map (wordsOfFields fields ++ ·)
  | [], rest, _, _ => by simp [writeFields, wordsOfFields]
  | [(k, v)], rest, normal, closing => by
    have colon : between.tokens (encode (':' :: v.write rest)) =
        (between.tokens (encode (v.write rest))).map (.colon :: ·) := tokens_mark rfl _
    rw [writeFields, Utf8.encode_append, tokens_quoted, colon,
      tokens_write v rest (by simpa [fieldsAreNormal] using normal) closing, Option.map_map,
      Option.map_map]
    congr 1
  | (k, v) :: f :: more, rest, normal, closing => by
    rw [fieldsAreNormal, Bool.and_eq_true] at normal
    have comma : Closing (encode (',' :: writeFields (f :: more) rest)) := closing_cons (by decide) _
    have follows : between.tokens (encode (',' :: writeFields (f :: more) rest)) =
        (between.tokens (encode (writeFields (f :: more) rest))).map (.comma :: ·) :=
      tokens_mark rfl _
    have colon : between.tokens (encode (':' :: v.write (',' :: writeFields (f :: more) rest))) =
        (between.tokens (encode (v.write (',' :: writeFields (f :: more) rest)))).map (.colon :: ·) :=
      tokens_mark rfl _
    rw [writeFields, Utf8.encode_append, tokens_quoted, colon, tokens_write v _ normal.1 comma, follows,
      tokens_writeFields (f :: more) rest normal.2 closing, Option.map_map, Option.map_map,
      Option.map_map, Option.map_map]
    congr 1
    funext tail
    simp [wordsOfFields]

end

end Scanner

/-! ### The document -/

namespace Builder

mutual

/-- **The words of a value are built into its document**, and that is delivered to what is open. -/
theorem build_words : ∀ (v : Json) (stack : List Frame) (opened : Bool) (rest : List Token),
    (value stack opened).build (v.words ++ rest) = (deliver (.ofValue v) stack).build rest
  | .null, stack, opened, rest => by simp [words, build, feed, Document.ofValue]
  | .bool b, stack, opened, rest => by simp [words, build, feed, Document.ofValue]
  | .int n, stack, opened, rest => by simp [words, build, feed, Document.ofValue]
  | .decimal s e, stack, opened, rest => by simp [words, build, feed, Document.ofValue]
  | .str s, stack, opened, rest => by simp [words, build, feed, Document.ofValue]
  | .array [], stack, opened, rest => by
    simp [words, wordsOfItems, build, feed, Document.ofValue, Document.ofItems]
  | .array (v :: others), stack, opened, rest => by
    -- an empty container is closed in another state than one with something in it
    have items := build_wordsOfItems (v :: others) (List.cons_ne_nil _ _) [] stack true
      (.closeArray :: rest)
    simp only [words, List.cons_append, List.append_assoc, List.nil_append, build, feed, Option.bind_some]
    rw [items]
    simp [build, feed, Document.ofValue]
  | .object [], stack, opened, rest => by
    simp [words, wordsOfFields, build, feed, Document.ofValue, Document.ofFields]
  | .object (f :: others), stack, opened, rest => by
    obtain ⟨last, fields⟩ := build_wordsOfFields (f :: others) (List.cons_ne_nil _ _) [] stack true
      (.closeObject :: rest)
    simp only [words, List.cons_append, List.append_assoc, List.nil_append, build, feed, Option.bind_some]
    rw [fields]
    simp [build, feed, Document.ofValue]

theorem build_wordsOfItems : ∀ (items : List Json), items ≠ [] → ∀ (before : List Document)
    (stack : List Frame) (opened : Bool) (rest : List Token),
    (value (.array before :: stack) opened).build (wordsOfItems items ++ rest) =
      (more (.array ((Document.ofItems items).reverse ++ before) :: stack)).build rest
  | [], given, _, _, _, _ => absurd rfl given
  | [v], _, before, stack, opened, rest => by
    rw [wordsOfItems, build_words v]
    simp [deliver, Document.ofItems]
  | v :: w :: items, _, before, stack, opened, rest => by
    have next := build_wordsOfItems (w :: items) (List.cons_ne_nil _ _) (Document.ofValue v :: before)
      stack false rest
    rw [wordsOfItems, List.append_assoc, build_words v, List.cons_append]
    simp only [deliver, build, feed, Option.bind_some]
    rw [next]
    simp [Document.ofItems]

theorem build_wordsOfFields : ∀ (fields : List (String × Json)), fields ≠ [] →
    ∀ (before : List (Option String × Document)) (stack : List Frame) (opened : Bool)
      (rest : List Token),
    ∃ last, (key stack before opened).build (wordsOfFields fields ++ rest) =
      (more (.object ((Document.ofFields fields).reverse ++ before) last :: stack)).build rest
  | [], given, _, _, _, _ => absurd rfl given
  | [(k, v)], _, before, stack, opened, rest => by
    refine ⟨some k, ?_⟩
    simp only [wordsOfFields, List.cons_append, build, feed, Option.bind_some]
    rw [build_words v]
    simp [deliver, Document.ofFields]
  | (k, v) :: f :: fields, _, before, stack, opened, rest => by
    obtain ⟨last, next⟩ := build_wordsOfFields (f :: fields) (List.cons_ne_nil _ _)
      ((some k, Document.ofValue v) :: before) stack false rest
    refine ⟨last, ?_⟩
    simp only [wordsOfFields, List.cons_append, List.append_assoc, build, feed, Option.bind_some]
    rw [build_words v]
    simp only [deliver, build, feed, Option.bind_some]
    rw [next]
    simp [Document.ofFields]

end

end Builder

namespace Document

/-- The text of a value is the text of its document. -/
theorem ofBytes_write {v : Json} (normal : v.isNormal = true) :
    ofBytes (encode (v.write [])) = some (ofValue v) := by
  have swept := Scanner.tokens_write v [] normal Scanner.closing_nil
  have built := Builder.build_words v [] false []
  have words : tokens (encode (v.write [])) = some v.words := by
    rw [tokens, swept]
    simp [Scanner.tokens, Scanner.finish]
  rw [ofBytes, words]
  rw [List.append_nil] at built
  exact built

mutual

/-- A value in normal form is kept as it is, if there is room for what it nests. -/
theorem keep_ofValue : ∀ (v : Json) (room : Nat), v.isNormal = true → v.depth ≤ room →
    (ofValue v).keep room = some v
  | .null, _, _, _ => rfl
  | .bool _, _, _, _ => rfl
  | .int _, _, _, _ => rfl
  | .decimal _ _, _, _, _ => rfl
  | .str _, _, _, _ => rfl
  | .array items, room, normal, deep => by
    rw [Json.depth] at deep
    have inside := keepItems_ofItems items (room - 1) (by simpa [isNormal] using normal) (by omega)
    rw [ofValue, keep, if_neg (by omega), inside, Option.map_some]
  | .object fields, room, normal, deep => by
    rw [Json.depth] at deep
    rw [isNormal, Bool.and_eq_true, decide_eq_true_eq] at normal
    have inside := keepMembers_ofFields fields (room - 1) normal.2 (by omega)
    rw [ofValue, keep, if_neg (by omega), inside, Option.map_some, Json.ofFields,
      Dictionary.ofList_ascending normal.1]

theorem keepItems_ofItems : ∀ (items : List Json) (room : Nat), areNormal items = true →
    depthOfItems items ≤ room → keepItems room (ofItems items) = some items
  | [], _, _, _ => rfl
  | v :: items, room, normal, deep => by
    rw [areNormal, Bool.and_eq_true] at normal
    rw [depthOfItems] at deep
    rw [ofItems, keepItems, keep_ofValue v room normal.1 (by omega),
      keepItems_ofItems items room normal.2 (by omega)]
    rfl

theorem keepMembers_ofFields : ∀ (fields : List (String × Json)) (room : Nat),
    fieldsAreNormal fields = true → depthOfFields fields ≤ room →
    keepMembers room (ofFields fields) = some fields
  | [], _, _, _ => rfl
  | (k, v) :: fields, room, normal, deep => by
    rw [fieldsAreNormal, Bool.and_eq_true] at normal
    rw [depthOfFields] at deep
    rw [ofFields, keepMembers, keep_ofValue v room normal.1 (by omega),
      keepMembers_ofFields fields room normal.2 (by omega)]
    rfl

end

end Document

end Depot.Json
