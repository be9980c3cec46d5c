import Inspection.Proofs.View.Markup
import Inspection.Proofs.View.Shape

/-!
# View — A tree is written as an element

Whatever texts a tree holds, its lines are an element of XML: tags that match, values without a
quote, texts without a tag, and every character that is written by name written by a name that
there is.

* `exists_element`: the lines of a tree are an element between an indentation and a line end.
* `isDocument_write`: a tree is written as a document.
-/

namespace Inspection

namespace Xml

/-! ### Texts -/

/-- The markup of a character that has a name is a reference to it. -/
theorem isReference_escapeChar {c : Char} (hc : c ∈ Markup.named) :
    IsReference (Markup.escapeChar c) := by
  have hname : ∀ n ∈ entities, IsReference (['&'] ++ n ++ [';']) := fun _ => .entity
  have hnumber : IsReference (['&', '#'] ++ ['3', '9'] ++ [';']) :=
    .decimal (c := '\'') (by decide) (by decide)
  simp only [Markup.named, List.mem_cons, List.not_mem_nil, or_false] at hc
  obtain rfl | rfl | rfl | rfl | rfl := hc
  · exact hname "amp".toList (by decide)
  · exact hname "lt".toList (by decide)
  · exact hname "gt".toList (by decide)
  · exact hname "quot".toList (by decide)
  · exact hnumber

theorem isValue_escapeChars (s : List Char) : IsValue (Markup.escapeChars s) := by
  induction s with
  | nil => exact .nil
  | cons c s ih =>
    rw [Markup.escapeChars_cons]
    by_cases hc : c ∈ Markup.named
    · exact .reference (isReference_escapeChar hc) ih
    · have hsub : ['<', '&', '"'] ⊆ Markup.named := by decide
      rw [Markup.escapeChar_of_not_mem hc]
      exact .char (fun h => hc (hsub h)) ih

/-- Without named characters a text is plain; `]]>` would need one. -/
theorem isCharData_of_plain {s : List Char} (hs : ∀ c ∈ s, c ∉ Markup.named) : IsCharData s := by
  refine ⟨fun h => hs _ h (by decide), fun h => hs _ h (by decide), fun h => ?_⟩
  exact hs '>' (h.subset (by decide)) (by decide)

/-- The markup of a text is content; what is plain may stand in front of it. -/
theorem isContent_escapeChars (s : List Char) {before : List Char}
    (hbefore : ∀ c ∈ before, c ∉ Markup.named) : IsContent (before ++ Markup.escapeChars s) := by
  -- plain characters gather in front until a named one ends the text before it
  induction s generalizing before with
  | nil =>
    rw [Markup.escapeChars, List.flatMap_nil, List.append_nil]
    exact .data (isCharData_of_plain hbefore)
  | cons c s ih =>
    rw [Markup.escapeChars_cons, ← List.append_assoc]
    by_cases hc : c ∈ Markup.named
    · have hrest : IsContent ([] ++ Markup.escapeChars s) := ih fun c hc => nomatch hc
      exact .reference (isCharData_of_plain hbefore) (isReference_escapeChar hc) hrest
    · rw [Markup.escapeChar_of_not_mem hc]
      refine ih fun d hd => ?_
      obtain hd | hd := List.mem_append.1 hd
      · exact hbefore d hd
      · obtain rfl := List.mem_singleton.1 hd
        exact hc

/-! ### Tags -/

theorem isAttributes_writeAttributes {as : List (String × String)}
    (hnames : ∀ a ∈ as.map Prod.fst, isName a.toList = true) (hnodup : (as.map Prod.fst).Nodup) :
    IsAttributes ((as.map Prod.fst).map String.toList) (writeAttributes as) := by
  induction as with
  | nil => exact .nil
  | cons a as ih =>
    obtain ⟨name, value⟩ := a
    simp only [List.map_cons, List.forall_mem_cons, List.nodup_cons] at hnames hnodup ⊢
    have hfresh : name.toList ∉ (as.map Prod.fst).map String.toList := fun h => by
      obtain ⟨other, hother, heq⟩ := List.mem_map.1 h
      exact hnodup.1 (String.toList_inj.1 heq ▸ hother)
    exact .cons hnames.1 hfresh (isValue_escapeChars _) (ih hnames.2 hnodup.2)

/-! ### Elements -/

/-- The lines are an element between an indentation and a line end. -/
def IsLines (indent : Nat) (lines : List Char) : Prop :=
  ∃ e, IsElement e ∧ lines = List.replicate indent ' ' ++ e ++ ['\n']

theorem newline_plain : ∀ c ∈ ['\n'], c ∉ Markup.named := by
  simp [Markup.named]

theorem blanks_plain (n : Nat) : ∀ c ∈ List.replicate n ' ', c ∉ Markup.named := by
  intro c hc
  rw [List.eq_of_mem_replicate hc]
  decide

/-- The lines of children are content, with plain texts around them. -/
theorem isContent_writeAll {xs : List Xml} {depth : Nat}
    (hxs : ∀ x ∈ xs, IsLines (2 * depth) (writeAt depth x)) {before after : List Char}
    (hbefore : ∀ c ∈ before, c ∉ Markup.named) (hafter : ∀ c ∈ after, c ∉ Markup.named) :
    IsContent (before ++ writeAll depth xs ++ after) := by
  induction xs generalizing before with
  | nil =>
    rw [writeAll, List.append_nil]
    exact .data (isCharData_of_plain (List.forall_mem_append.2 ⟨hbefore, hafter⟩))
  | cons x xs ih =>
    simp only [List.forall_mem_cons] at hxs
    obtain ⟨⟨e, he, hlines⟩, hxs⟩ := hxs
    -- the line end of this child and the indentation of the next are one text
    have hrest : IsContent (['\n'] ++ writeAll depth xs ++ after) := ih hxs newline_plain
    have hindent := List.forall_mem_append.2 ⟨hbefore, blanks_plain (2 * depth)⟩
    have hcontent := IsContent.element (isCharData_of_plain hindent) he hrest
    rw [writeAll, hlines]
    simpa only [List.append_assoc] using hcontent

/-- **A tree is written as an element.** -/
theorem exists_element {holds : String → Holding} {x : Xml} (hx : Fits holds x) (depth : Nat) :
    IsLines (2 * depth) (writeAt depth x) := by
  induction hx generalizing depth with
  | element hname hholds hchildren ih =>
    have hbody : IsContent (['\n'] ++ writeAll (depth + 1) _ ++ List.replicate (2 * depth) ' ') :=
      isContent_writeAll (fun x hx => ih x hx (depth + 1)) newline_plain (blanks_plain _)
    have hlist := isAttributes_writeAttributes hname.isName_attribute hname.nodup
    exact ⟨_, .tagged hname.isName_name hlist hbody,
      by simp [writeAt, writeHead, writeEnd, List.append_assoc]⟩
  | content text hname hholds =>
    have hbody : IsContent ([] ++ Markup.escapeChars text.toList) :=
      isContent_escapeChars _ fun c hc => nomatch hc
    have hlist := isAttributes_writeAttributes hname.isName_attribute hname.nodup
    exact ⟨_, .tagged hname.isName_name hlist hbody,
      by simp [writeAt, writeHead, writeEnd, List.append_assoc]⟩
  | closed hname hholds =>
    have hlist := isAttributes_writeAttributes hname.isName_attribute hname.nodup
    exact ⟨_, .empty hname.isName_name hlist, by simp [writeAt, writeHead, List.append_assoc]⟩

/-- A tree is written as a document, whatever texts it holds. -/
theorem isDocument_write {holds : String → Holding} {x : Xml} (hx : Fits holds x) :
    IsDocument (write x).toList := by
  obtain ⟨e, he, hlines⟩ := exists_element hx 0
  have hminor : (Text.ofDigits? ['0']).isSome = true := by decide
  have hencoding : isEncoding "UTF-8".toList = true := by decide
  have hspace : ['\n'].all isSpace = true := by decide
  have hdeclared : declaration.toList = declared ['0'] "UTF-8".toList ++ ['\n'] := by decide
  have hdoc := IsDocument.mk hminor hencoding hspace he hspace
  rw [write, String.toList_append, String.toList_ofList, hlines, hdeclared]
  simpa only [List.append_assoc, List.replicate_zero, List.nil_append, Nat.mul_zero] using hdoc

end Xml

end Inspection
