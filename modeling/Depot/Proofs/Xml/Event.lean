import Depot.Xml.Event
import Mathlib.Data.List.TakeWhile

/-!
# The events of written marks

What the sweep over an XML text makes of a tag whose name is made of letters, and of character data without
an opening angle bracket.  Character data is told only when the next mark begins (`pending`).
-/

namespace Depot.Xml.Sweep

/-- The event of the character data that has been read, if there is any. -/
def pending (read : List Char) : List Event := if read.isEmpty then [] else [.text read.reverse]

theorem events_cons {s next : Sweep} {c : Char} {done : List Event}
    (step : s.feed c = some (done, next)) (rest : List Char) :
    s.events (c :: rest) = done ++ next.events rest := by
  rw [events, step]

/-- Character data is read up to the next mark. -/
theorem events_text {data : List Char} (plain : '<' ∉ data) (read rest : List Char) :
    (text read).events (data ++ rest) = (text (data.reverse ++ read)).events rest := by
  induction data generalizing read with
  | nil => rfl
  | cons c data ih =>
    have noMark : c ≠ '<' := by
      rintro rfl
      exact plain List.mem_cons_self
    have step : (text read).feed c = some ([], text (c :: read)) := by rw [feed, if_neg noMark]
    rw [List.cons_append, events_cons step, List.reverse_cons, List.append_assoc]
    exact ih (fun later => plain (List.mem_cons_of_mem c later)) (c :: read)

theorem events_mark (read rest : List Char) :
    (text read).events ('<' :: rest) = pending read ++ markup.events rest :=
  events_cons rfl rest

/-! ### Tags -/

/-- What no letter is. -/
theorem letter_ne {c d : Char} (letter : c.isAlpha = true) (other : d.isAlpha = false) : c ≠ d := by
  rintro rfl
  exact absurd (letter.symm.trans other) (by decide)

theorem isSpace_letter {c : Char} (letter : c.isAlpha = true) : isSpace c = false := by
  rw [isSpace, decide_eq_false_iff_not]
  rintro (rfl | rfl | rfl | rfl) <;> exact absurd letter (by decide)

section Letters

variable {name : List Char} (letters : ∀ c ∈ name, c.isAlpha = true)

include letters

theorem last_letter : (name.getLast? == some '/') = false := by
  rw [beq_eq_false_iff_ne]
  intro last
  exact letter_ne (letters '/' (List.mem_of_getLast? last)) (by decide) rfl

theorem takeWhile_letters : name.takeWhile (!isSpace ·) = name := by
  rw [List.takeWhile_eq_self_iff]
  intro c hc
  rw [isSpace_letter (letters c hc), Bool.not_false]

theorem tagEvents_name : tagEvents name = [.start name []] := by
  simp only [tagEvents, last_letter letters, Bool.false_eq_true, if_false, takeWhile_letters letters,
    List.drop_length]

/-- A name with a slash behind it is the tag of an element without contents. -/
theorem tagEvents_slash : tagEvents (name ++ ['/']) = [.start name [], .finish name] := by
  have closed : ((name ++ ['/']).getLast? == some '/') = true := by simp
  simp only [tagEvents, closed, if_true, List.dropLast_concat, takeWhile_letters letters,
    List.drop_length]

/-- Inside a tag the sweep goes on over letters, and over a slash. -/
theorem events_startTag (slash : List Char) (isSlash : slash = [] ∨ slash = ['/'])
    (read rest : List Char) : (startTag read none).events (name ++ slash ++ '>' :: rest) =
      tagEvents (read.reverse ++ name ++ slash) ++ (text []).events rest := by
  induction name generalizing read with
  | nil =>
    have ends (read : List Char) : (startTag read none).feed '>' = some (tagEvents read.reverse, text []) := by
      rw [feed, if_pos rfl]
    rcases isSlash with rfl | rfl
    · rw [List.append_nil, List.append_nil, List.append_nil, List.nil_append, events_cons (ends read)]
    · have step : (startTag read none).feed '/' = some ([], startTag ('/' :: read) none) := rfl
      rw [List.nil_append, List.singleton_append, events_cons step, events_cons (ends _),
        List.append_nil, List.reverse_cons, List.nil_append]
  | cons c name ih =>
    have letter : c.isAlpha = true := letters c List.mem_cons_self
    have step : (startTag read none).feed c = some ([], startTag (c :: read) none) := by
      rw [feed, if_neg (letter_ne letter (by decide)), if_neg]
      rintro (rfl | rfl) <;> exact absurd letter (by decide)
    rw [List.cons_append, List.cons_append, events_cons step, List.nil_append,
      ih (fun c' hc' => letters c' (List.mem_cons_of_mem c hc')), List.reverse_cons]
    simp only [List.append_assoc, List.singleton_append]

theorem events_endTag (read rest : List Char) : (endTag read).events (name ++ '>' :: rest) =
    .finish (trimEnd (read.reverse ++ name)) :: (text []).events rest := by
  induction name generalizing read with
  | nil =>
    have step : (endTag read).feed '>' = some ([.finish (trimEnd read.reverse)], text []) := by
      rw [feed, if_pos rfl]
    rw [List.nil_append, events_cons step, List.append_nil, List.singleton_append]
  | cons c name ih =>
    have letter : c.isAlpha = true := letters c List.mem_cons_self
    have step : (endTag read).feed c = some ([], endTag (c :: read)) := by
      rw [feed, if_neg (letter_ne letter (by decide))]
    rw [List.cons_append, events_cons step, List.nil_append,
      ih (fun c' hc' => letters c' (List.mem_cons_of_mem c hc')), List.reverse_cons]
    simp only [List.append_assoc, List.singleton_append]

theorem trimEnd_letters : trimEnd name = name := by
  have kept : name.reverse.dropWhile isSpace = name.reverse := by
    rcases form : name.reverse with - | ⟨c, back⟩
    · rfl
    · have last : c ∈ name := List.mem_reverse.mp (form ▸ List.mem_cons_self)
      rw [List.dropWhile_cons_of_neg (by simp [isSpace_letter (letters c last)])]
  rw [trimEnd, kept, List.reverse_reverse]

theorem events_markup (given : name ≠ []) (rest : List Char) :
    markup.events (name ++ rest) = (startTag [] none).events (name ++ rest) := by
  rcases name with - | ⟨c, name⟩
  · exact absurd rfl given
  have letter : c.isAlpha = true := letters c List.mem_cons_self
  have inTag : (startTag [] none).feed c = some ([], startTag [c] none) := by
    rw [feed, if_neg (letter_ne letter (by decide)), if_neg]
    rintro (rfl | rfl) <;> exact absurd letter (by decide)
  have begins : markup.feed c = some ([], startTag [c] none) := by
    rw [feed] <;> exact letter_ne letter (by decide)
  rw [List.cons_append, events_cons begins, events_cons inTag]

/-- **An element that starts.** -/
theorem events_opening (given : name ≠ []) (read rest : List Char) :
    (text read).events ('<' :: (name ++ '>' :: rest)) =
      pending read ++ .start name [] :: (text []).events rest := by
  have tag := events_startTag letters [] (.inl rfl) [] rest
  rw [List.append_nil, List.append_nil, List.reverse_nil, List.nil_append, tagEvents_name letters] at tag
  rw [events_mark, events_markup letters given, tag, List.singleton_append]

/-- **An element that starts and ends at once.** -/
theorem events_selfClosing (given : name ≠ []) (read rest : List Char) :
    (text read).events ('<' :: (name ++ '/' :: '>' :: rest)) =
      pending read ++ .start name [] :: .finish name :: (text []).events rest := by
  have tag := events_startTag letters ['/'] (.inr rfl) [] rest
  rw [List.reverse_nil, List.nil_append, tagEvents_slash letters, List.append_assoc,
    List.singleton_append] at tag
  rw [events_mark, events_markup letters given, tag]
  rfl

/-- **An element that ends.** -/
theorem events_closing (read rest : List Char) :
    (text read).events ('<' :: '/' :: (name ++ '>' :: rest)) =
      pending read ++ .finish name :: (text []).events rest := by
  have slash : markup.feed '/' = some ([], endTag []) := rfl
  rw [events_mark, events_cons slash, events_endTag letters, List.reverse_nil, List.nil_append,
    List.nil_append, trimEnd_letters letters]

end Letters

end Depot.Xml.Sweep
