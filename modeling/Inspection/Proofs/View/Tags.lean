import Inspection.Proofs.View.Markup
import Mathlib.Data.List.Basic

/-!
# View — The tags of a document

A document is read as its tags, each with the text behind it.  A tag goes from `<` to the next `>`,
whatever stands between them, and a text is what its references and its other characters stand for.
This is all that a reader has who does not know how the document was made; so a text that was
written by name can neither end a tag nor begin one, and is read as it was.

* `Part`: a tag and the text behind it.
* `readText`: the parts of a document.
* `Item`: a part to be written.
* `decode`: what a text stands for.
* `readText_written`, `decode_escapeChars`: items and texts are read as they were written.
-/

namespace Inspection.Markup

/-! ### Parts -/

/-- A tag, from `<` to `>`, and the text behind it. -/
structure Part where
  tag : String
  text : String
deriving DecidableEq, Repr

mutual

/-- Reads on behind a tag: the text up to the next one, and the parts from there on. -/
def readText : List Char → List Char × List Part
  | [] => ([], [])
  | c :: s =>
    if c = '<' then
      let (tag, text, parts) := readTag s
      ([], ⟨String.ofList ('<' :: tag), String.ofList text⟩ :: parts)
    else
      let (text, parts) := readText s
      (c :: text, parts)

/-- Reads on within a tag: the rest of it, the text behind it, and the parts from there on.  A tag
that does not end goes up to the end of the document. -/
def readTag : List Char → List Char × List Char × List Part
  | [] => ([], [], [])
  | c :: s =>
    if c = '>' then
      let (text, parts) := readText s
      (['>'], text, parts)
    else
      let (tag, text, parts) := readTag s
      (c :: tag, text, parts)

end

/-- The tags of a document. -/
def tags (s : List Char) : List String := (readText s).2.map (·.tag)

/-- A tag begins with `<` and ends with the only `>` that it has. -/
def IsTag (tag : String) : Prop :=
  tag.toList.head? = some '<' ∧ tag.toList.tail.getLast? = some '>'
    ∧ '>' ∉ tag.toList.tail.dropLast

instance (tag : String) : Decidable (IsTag tag) :=
  inferInstanceAs (Decidable (_ ∧ _ ∧ _))

theorem IsTag.exists_body {tag : String} (h : IsTag tag) :
    ∃ body, tag.toList = '<' :: (body ++ ['>']) ∧ '>' ∉ body := by
  obtain ⟨hhead, hlast, hbody⟩ := h
  refine ⟨tag.toList.tail.dropLast, ?_, hbody⟩
  rw [List.dropLast_append_getLast? _ hlast]
  exact (List.cons_head?_tail hhead).symm

/-- A part to be written: its tag is one, its text is written by name. -/
structure Item extends Part where
  isTag : IsTag tag

/-- A tag with the text behind it. -/
def item (tag text : String) (h : IsTag tag := by decide) : Item := ⟨⟨tag, text⟩, h⟩

@[simp]
theorem tag_item (tag text : String) (h : IsTag tag) : (item tag text h).tag = tag := rfl

/-- An item as it is written. -/
def Item.chars (x : Item) : List Char := x.tag.toList ++ escapeChars x.text.toList

/-- An item as it is read: the text is what markup holds. -/
def Item.escaped (x : Item) : Part := ⟨x.tag, escape x.text⟩

theorem readText_append {text : List Char} (h : '<' ∉ text) (s : List Char) :
    readText (text ++ s) = (text ++ (readText s).1, (readText s).2) := by
  induction text with
  | nil => rfl
  | cons c text ih =>
    simp only [List.mem_cons, not_or] at h
    rw [List.cons_append, readText, if_neg (Ne.symm h.1), ih h.2]
    rfl

theorem readTag_append {body : List Char} (h : '>' ∉ body) (s : List Char) :
    readTag (body ++ '>' :: s) = (body ++ ['>'], (readText s).1, (readText s).2) := by
  induction body with
  | nil =>
    rw [List.nil_append, readTag, if_pos rfl]
    rfl
  | cons c body ih =>
    simp only [List.mem_cons, not_or] at h
    rw [List.cons_append, readTag, if_neg (Ne.symm h.1), ih h.2]
    rfl

/-- **Items are read as they were written.** -/
theorem readText_written (items : List Item) :
    readText (items.flatMap Item.chars) = ([], items.map Item.escaped) := by
  induction items with
  | nil => rfl
  | cons x items ih =>
    obtain ⟨body, htag, hbody⟩ := x.isTag.exists_body
    have hopen : '<' ∉ escapeChars x.text.toList := not_mem_escapeChars (by decide) _
    have hchars : (x :: items).flatMap Item.chars =
        '<' :: (body ++ '>' :: (escapeChars x.text.toList ++ items.flatMap Item.chars)) := by
      simp [Item.chars, htag]
    rw [hchars, readText, if_pos rfl, readTag_append hbody, readText_append hopen, ih]
    simp [Item.escaped, escape, ← htag]

/-! ### References -/

/-- The character that a number stands for. -/
def ofCode? (n : Nat) : Option Char := if n.isValidChar then some (Char.ofNat n) else none

/-- The characters that have a name. -/
def entities : List (List Char × Char) :=
  [("amp".toList, '&'), ("lt".toList, '<'), ("gt".toList, '>'), ("quot".toList, '"'),
    ("apos".toList, '\'')]

/-- The character that a reference stands for, which is written between `&` and `;`. -/
def reference? (s : List Char) : Option Char :=
  match s with
  | '#' :: 'x' :: digits => (Text.ofBaseDigits? 16 digits).bind ofCode?
  | '#' :: digits => (Text.ofDigits? digits).bind ofCode?
  | name => entities.lookup name

/-- What stands behind an `&`, up to the next one, with that `&`. -/
def decodePiece (s : List Char) : List Char :=
  match Text.splitFirst? (· == ';') s with
  | none => '&' :: s
  | some (name, after) =>
    match reference? name with
    | none => '&' :: s
    | some c => c :: after

/-- A text with what its references stand for; an `&` that begins none stands for itself. -/
def decode (s : List Char) : List Char :=
  match Text.splitAll (· == '&') s with
  | [] => []
  | first :: rest => first ++ rest.flatMap decodePiece

/-- The markup of a character that has a name is a reference to it. -/
theorem exists_reference {c : Char} (hc : c ∈ named) :
    ∃ name, escapeChar c = '&' :: (name ++ [';']) ∧ '&' ∉ name ∧ ';' ∉ name
      ∧ reference? name = some c := by
  simp only [named, List.mem_cons, List.not_mem_nil, or_false] at hc
  rcases hc with rfl | rfl | rfl | rfl | rfl
  · exact ⟨"amp".toList, by decide⟩
  · exact ⟨"lt".toList, by decide⟩
  · exact ⟨"gt".toList, by decide⟩
  · exact ⟨"quot".toList, by decide⟩
  · exact ⟨"#39".toList, by decide⟩

theorem decodePiece_reference {name : List Char} {c : Char} (hname : ';' ∉ name)
    (hc : reference? name = some c) (after : List Char) :
    decodePiece (name ++ ';' :: after) = c :: after := by
  have hsplit : Text.splitFirst? (· == ';') (name ++ ';' :: after) = some (name, after) :=
    Text.splitFirst?_eq_some_iff.2 ⟨';', rfl, rfl, Text.beq_false_of_not_mem hname⟩
  simp [decodePiece, hsplit, hc]

theorem decode_append {text : List Char} (h : '&' ∉ text) (s : List Char) :
    decode (text ++ s) = text ++ decode s := by
  obtain ⟨first, rest, hs⟩ := List.exists_cons_of_ne_nil (Text.splitAll_ne_nil (· == '&') s)
  rw [decode, decode, Text.splitAll_append_of_not_mem h hs, hs]
  simp

theorem decode_reference {name : List Char} {c : Char} (hamp : '&' ∉ name) (hsemi : ';' ∉ name)
    (hc : reference? name = some c) (s : List Char) :
    decode ('&' :: (name ++ ';' :: s)) = c :: decode s := by
  obtain ⟨first, rest, hs⟩ := List.exists_cons_of_ne_nil (Text.splitAll_ne_nil (· == '&') s)
  have hfront : '&' ∉ name ++ [';'] := by simp [hamp]
  have hpiece : Text.splitAll (· == '&') (name ++ ';' :: s) = (name ++ ';' :: first) :: rest := by
    simpa using Text.splitAll_append_of_not_mem hfront hs
  have hsplit : Text.splitAll (· == '&') ('&' :: (name ++ ';' :: s)) =
      [] :: (name ++ ';' :: first) :: rest := by
    rw [← hpiece]
    exact Text.splitAll_append_cons (by simp) [] _
  rw [decode, decode, hsplit, hs]
  simp [decodePiece_reference hsemi hc]

/-- **What was written by name stands for what it was.** -/
theorem decode_escapeChars (s : List Char) : decode (escapeChars s) = s := by
  induction s with
  | nil => rfl
  | cons c s ih =>
    rw [escapeChars_cons]
    by_cases hc : c ∈ named
    · obtain ⟨name, hchars, hamp, hsemi, href⟩ := exists_reference hc
      rw [hchars, List.cons_append, List.append_assoc, List.singleton_append,
        decode_reference hamp hsemi href, ih]
    · have hamp : '&' ∉ [c] := by
        rw [List.mem_singleton]
        rintro rfl
        exact hc (List.mem_cons_self ..)
      rw [escapeChar_of_not_mem hc, decode_append hamp, ih, List.singleton_append]

theorem not_mem_escape {q : Char} (hq : q ∈ barred) (s : String) : q ∉ (escape s).toList := by
  rw [escape, String.toList_ofList]
  exact not_mem_escapeChars hq s.toList

/-- A part with what its text stands for. -/
def Part.decoded (p : Part) : Part := ⟨p.tag, String.ofList (decode p.text.toList)⟩

/-- An item is what is read of it. -/
theorem decoded_escaped (x : Item) : x.escaped.decoded = x.toPart := by
  rw [Item.escaped, Part.decoded, escape, String.toList_ofList, decode_escapeChars,
    String.ofList_toList]

end Inspection.Markup
