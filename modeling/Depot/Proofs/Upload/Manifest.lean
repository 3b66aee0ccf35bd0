import Depot.Peer.Manifest
import Depot.Proofs.Text.Number
import Depot.Proofs.Xml.Event
import Depot.Upload.Manifest
import Mathlib.Data.List.Basic
import Mathlib.Logic.Function.Basic

/-!
# A manifest is read as it was written

What a provider reads in a manifest are the parts that were written into it (`read?_render`).  The written
form of a tag has no opening angle bracket, so the sweep finds no mark in it, and its references stand for
the characters that were escaped (`resolve_escape`).  The rest goes part by part.

In terms of maps from part numbers to tags: the manifest of a map tells the map (`map_is_read_back`).
-/

namespace Depot.Manifest

open Xml (resolve)
open Xml.Sweep (pending)

/-! ### Tags -/

/-- The written form of a character stands for the character. -/
theorem resolve_escapeChar (c : Char) (rest : List Char) :
    resolve none (escapeChar c ++ rest) = (resolve none rest).map (c :: ·) := by
  rw [escapeChar]
  split
  · next amp =>
    subst amp
    rfl
  split
  · next lt =>
    subst lt
    rfl
  split
  · next gt =>
    subst gt
    rfl
  · next noAmp _ _ =>
    rw [List.singleton_append, resolve]
    exact noAmp

theorem resolve_escape (text : List Char) : resolve none (text.flatMap escapeChar) = some text := by
  induction text with
  | nil => rfl
  | cons c rest ih => rw [List.flatMap_cons, resolve_escapeChar, ih, Option.map_some]

/-- No tag can look like markup. -/
theorem noMark_escape (text : List Char) : '<' ∉ text.flatMap escapeChar := by
  rw [List.mem_flatMap]
  rintro ⟨c, -, inside⟩
  rw [escapeChar] at inside
  split at inside
  · exact absurd inside (by decide)
  split at inside
  · exact absurd inside (by decide)
  split at inside
  · exact absurd inside (by decide)
  · next noLess _ => exact noLess (List.mem_singleton.mp inside).symm

theorem noMark_digits (n : Nat) : '<' ∉ Nat.toDigits 10 n := by
  intro inside
  have := Nat.isDigit_of_mem_toDigits (by decide) (by decide) inside
  exact absurd this (by decide)

/-! ### Reading -/

namespace Reading

theorem read_cons (r : Reading) (e : Xml.Event) (rest : List Xml.Event) :
    r.read (e :: rest) = (r.feed e).bind (read · rest) := by
  cases r <;> rfl

theorem read_feed {r next : Reading} {e : Xml.Event} (step : r.feed e = some next) (rest : List Xml.Event) :
    r.read (e :: rest) = next.read rest := by
  rw [read_cons, step, Option.bind_some]

/-- The character data of a tag, if there is any. -/
theorem read_tag {parts : List (Nat × String)} {n : Nat} {raw text : List Char}
    (means : resolve none raw = some text) (rest : List Xml.Event) :
    (tag parts n []).read (pending raw.reverse ++ rest) = (tag parts n text).read rest := by
  rw [pending]
  by_cases empty : raw = []
  · -- no character data is told at all
    subst empty
    obtain rfl : [] = text := Option.some.inj means
    rfl
  · have given : raw.reverse.isEmpty = false := by simpa using empty
    have step : (tag parts n []).feed (.text raw) = some (tag parts n text) := by
      rw [feed, means]
      rfl
    rw [given, if_neg Bool.false_ne_true, List.reverse_reverse, List.singleton_append, read_feed step]

end Reading

/-! ### Elements -/

open Xml.Sweep (events events_opening events_closing events_selfClosing events_text)

theorem letters_upload : ∀ c ∈ "CompleteMultipartUpload".toList, c.isAlpha = true :=
  List.all_eq_true.mp rfl

theorem letters_part : ∀ c ∈ "Part".toList, c.isAlpha = true := List.all_eq_true.mp rfl

theorem letters_partNumber : ∀ c ∈ "PartNumber".toList, c.isAlpha = true := List.all_eq_true.mp rfl

theorem letters_etag : ∀ c ∈ "ETag".toList, c.isAlpha = true := List.all_eq_true.mp rfl

/-- An element in written form, in front of what follows. -/
def element (name : String) (inner rest : List Char) : List Char :=
  '<' :: (name.toList ++ '>' :: (inner ++ '<' :: '/' :: (name.toList ++ '>' :: rest)))

theorem events_element {name : String} (letters : ∀ c ∈ name.toList, c.isAlpha = true)
    (given : name.toList ≠ []) {data : List Char} (plain : '<' ∉ data) (rest : List Char) :
    events (.text []) (element name data rest) =
      opening name :: (pending data.reverse ++ closing name :: events (.text []) rest) := by
  rw [element, events_opening letters given, events_text plain, events_closing letters,
    List.append_nil]
  rfl

theorem events_number (n : Nat) (rest : List Char) :
    events (.text []) (element "PartNumber" (Nat.toDigits 10 n) rest) =
      opening "PartNumber" :: .text (Nat.toDigits 10 n) :: closing "PartNumber" ::
        events (.text []) rest := by
  rw [events_element letters_partNumber (by decide) (noMark_digits n), pending, List.reverse_reverse]
  simp

/-- The number of a part. -/
theorem read_number (parts : List (Nat × String)) (n : Nat) (rest : List Char) :
    (Reading.part parts).read (events (.text []) (element "PartNumber" (Nat.toDigits 10 n) rest)) =
      (Reading.numbered parts n).read (events (.text []) rest) := by
  have opens : (Reading.part parts).feed (opening "PartNumber") = some (.number parts []) := rfl
  have fills : (Reading.number parts []).feed (.text (Nat.toDigits 10 n)) =
      some (.number parts (Nat.toDigits 10 n)) := rfl
  have closes : (Reading.number parts (Nat.toDigits 10 n)).feed (closing "PartNumber") =
      some (.numbered parts n) := by
    rw [closing, Reading.feed]
    · rw [closing, if_pos rfl, numeral?_toDigits, Option.map_some]
    · simp
  rw [events_number, Reading.read_feed opens, Reading.read_feed fills, Reading.read_feed closes]

/-- The tag of a part. -/
theorem read_writeTag (parts : List (Nat × String)) (n : Nat) (tag : String) (rest : List Char) :
    (Reading.numbered parts n).read (events (.text []) (writeTag tag ++ rest)) =
      (Reading.tagged parts n tag).read (events (.text []) rest) := by
  have closes (text : List Char) : (Reading.tag parts n text).feed (closing "ETag") =
      some (.tagged parts n (String.ofList text)) := rfl
  have opens : (Reading.numbered parts n).feed (opening "ETag") = some (.tag parts n []) := rfl
  rw [writeTag]
  split
  · next empty =>
    subst empty
    have form : "<ETag/>".toList ++ rest = '<' :: ("ETag".toList ++ '/' :: '>' :: rest) := rfl
    rw [form, events_selfClosing letters_etag (by decide)]
    show (Reading.numbered parts n).read (opening "ETag" :: closing "ETag" :: _) = _
    rw [Reading.read_feed opens, Reading.read_feed (closes [])]
  · have form : "<ETag>".toList ++ tag.toList.flatMap escapeChar ++ "</ETag>".toList ++ rest =
        element "ETag" (tag.toList.flatMap escapeChar) rest := by
      rw [element]
      simp only [List.append_assoc]
      rfl
    rw [form, events_element letters_etag (by decide) (noMark_escape _), Reading.read_feed opens,
      Reading.read_tag (resolve_escape _), Reading.read_feed (closes _), String.ofList_toList]

/-- **A part is read as it was written**, and the rest is read on its own. -/
theorem read_writePart (parts : List (Nat × String)) (n : Nat) (tag : String) (rest : List Char) :
    (Reading.parts parts).read (events (.text []) (writePart n tag ++ rest)) =
      (Reading.parts ((n, tag) :: parts)).read (events (.text []) rest) := by
  have form : writePart n tag ++ rest = '<' :: ("Part".toList ++ '>' :: element "PartNumber"
      (Nat.toDigits 10 n) (writeTag tag ++ '<' :: '/' :: ("Part".toList ++ '>' :: rest))) := by
    have digits : (toString n).toList = Nat.toDigits 10 n := by
      rw [Nat.toString_eq_repr, Nat.toList_repr]
    show "<Part><PartNumber>".toList ++ (toString n).toList ++ "</PartNumber>".toList ++ writeTag tag ++
      "</Part>".toList ++ rest = _
    rw [digits]
    simp only [List.append_assoc]
    rfl
  have opens : (Reading.parts parts).feed (opening "Part") = some (.part parts) := rfl
  have closes : (Reading.tagged parts n tag).feed (closing "Part") =
    some (.parts ((n, tag) :: parts)) := rfl
  rw [form, events_opening letters_part (by decide)]
  refine (Reading.read_feed opens _).trans ?_
  rw [read_number, read_writeTag, events_closing letters_part]
  exact Reading.read_feed closes _

theorem read_writeParts (before parts : List (Nat × String)) (rest : List Char) :
    (Reading.parts before).read
        (events (.text []) (parts.flatMap (fun p => writePart p.1 p.2) ++ rest)) =
      (Reading.parts (parts.reverse ++ before)).read (events (.text []) rest) := by
  induction parts generalizing before with
  | nil => rfl
  | cons p parts ih =>
    rw [List.flatMap_cons, List.append_assoc, read_writePart, ih, List.reverse_cons,
      List.append_assoc]
    rfl

/-- **What a provider reads in a manifest** are the parts that were written into it. -/
theorem read?_render (parts : List (Nat × String)) : read? (render parts) = some parts := by
  -- the text does not begin with a byte order mark, which a reader would skip
  have noMark : (write parts).head? ≠ some '\uFEFF' := by
    rw [write]
    split
    · decide
    · rw [List.append_assoc, List.head?_append]
      show some '<' ≠ some '\uFEFF'
      decide
  rw [read?, render, String.toList_ofList, Xml.events, if_neg noMark, write]
  split
  · next empty =>
    obtain rfl : parts = [] := by simpa using empty
    rfl
  · have form : "<CompleteMultipartUpload>".toList ++ parts.flatMap (fun p => writePart p.1 p.2)
          ++ "</CompleteMultipartUpload>".toList =
        '<' :: ("CompleteMultipartUpload".toList ++ '>' ::
          (parts.flatMap (fun p => writePart p.1 p.2) ++ '<' :: '/' ::
            ("CompleteMultipartUpload".toList ++ '>' :: []))) := by
      simp only [List.append_assoc]
      rfl
    rw [form, events_opening letters_upload (by decide)]
    have opens : Reading.before.feed (opening "CompleteMultipartUpload") = some (.parts []) := rfl
    have closes : (Reading.parts (parts.reverse ++ [])).feed (closing "CompleteMultipartUpload") =
      some (.finished (parts.reverse ++ [])) := rfl
    refine (Reading.read_feed opens _).trans ?_
    rw [read_writeParts, events_closing letters_upload]
    refine (Reading.read_feed closes _).trans ?_
    show some (parts.reverse ++ []).reverse = some parts
    rw [List.append_nil, List.reverse_reverse]

/-! ### Maps of tags -/

/-- The parts to which a map gives a tag, by ascending number. -/
def listed (tags : UInt32 → Option String) : List (Nat × String) :=
  (List.range UInt32.size).filterMap fun n => (tags (.ofNat n)).map fun tag => (n, tag)

theorem mem_listed {tags : UInt32 → Option String} {p : Nat × String} :
    p ∈ listed tags ↔ ∃ number : UInt32, number.toNat = p.1 ∧ tags number = some p.2 := by
  simp only [listed, List.mem_filterMap, List.mem_range, Option.map_eq_some_iff]
  constructor
  · rintro ⟨n, inside, tag, given, rfl⟩
    exact ⟨.ofNat n, UInt32.toNat_ofNat_of_lt' inside, given⟩
  · rintro ⟨number, same, given⟩
    exact ⟨number.toNat, number.toNat_lt_size, p.2, by rwa [UInt32.ofNat_toNat], by rw [same]⟩

theorem listed_ascending (tags : UInt32 → Option String) :
    (listed tags).Pairwise fun p q => p.1 < q.1 := by
  rw [listed, List.pairwise_filterMap]
  refine List.pairwise_lt_range.imp fun {m n} less p first q second => ?_
  obtain ⟨_, -, rfl⟩ := Option.map_eq_some_iff.mp first
  obtain ⟨_, -, rfl⟩ := Option.map_eq_some_iff.mp second
  exact less

/-- A map is known from the parts that it lists. -/
theorem listed_injective : Function.Injective listed := by
  intro tags tags' same
  funext number
  apply Option.ext
  intro tag
  have listing (tags : UInt32 → Option String) : (number.toNat, tag) ∈ listed tags ↔ tags number = some tag := by
    rw [mem_listed]
    constructor
    · rintro ⟨other, same, given⟩
      rwa [← UInt32.toNat_inj.mp same]
    · exact fun given => ⟨number, rfl, given⟩
  rw [← listing tags, ← listing tags', same]

/-- Another tag for one part changes nothing in the list of the other parts. -/
theorem listed_update (tags : UInt32 → Option String) (number : UInt32) (tag : Option String) :
    (listed (Function.update tags number tag)).filter (·.1 ≠ number.toNat) =
      (listed tags).filter (·.1 ≠ number.toNat) := by
  rw [listed, listed, List.filter_filterMap, List.filter_filterMap]
  apply List.filterMap_congr
  intro n inside
  by_cases same : UInt32.ofNat n = number
  · -- the part itself is in neither list
    have here : n = number.toNat := by
      rw [← same, UInt32.toNat_ofNat_of_lt' (List.mem_range.mp inside)]
    have dropped (given : Option String) : (given.map fun tag => (n, tag)).filter (·.1 ≠ number.toNat) = none := by
      rcases given with - | tag
      · rfl
      · simp [here]
    rw [dropped, dropped]
  · rw [Function.update_of_ne same]

/-- **A manifest can be read back.**  Whatever tags the parts have, a reader finds exactly these parts with these
tags, by ascending number.  So no two maps have the same manifest, and whatever the tag of one part is, it
neither adds nor drops nor alters another part. -/
theorem map_is_read_back (tags : UInt32 → Option String) :
    read? (render (listed tags)) = some (listed tags) ∧
      (listed tags).Pairwise (fun p q => p.1 < q.1) ∧
      (∀ p, p ∈ listed tags ↔ ∃ number : UInt32, number.toNat = p.1 ∧ tags number = some p.2) ∧
      Function.Injective (fun tags => render (listed tags)) ∧
      ∀ number tag, ∃ parts, read? (render (listed (Function.update tags number tag))) = some parts ∧
        parts.filter (·.1 ≠ number.toNat) = (listed tags).filter (·.1 ≠ number.toNat) := by
  refine ⟨read?_render _, listed_ascending tags, fun p => mem_listed, ?_, fun number tag => ?_⟩
  · -- what is written is read back, so it is written for one list only
    intro one other same
    apply listed_injective
    have read : some (listed one) = some (listed other) := by
      rw [← read?_render, ← read?_render]
      exact congrArg read? same
    exact Option.some.inj read
  · exact ⟨_, read?_render _, listed_update tags number tag⟩

end Depot.Manifest
